import Lamplighter.Proofs.Run.Balance

/-!
# The queue: runs get their turns in the order in which they came

* `Agenda.picks`        what is read off the cues in the line of an agenda, in their order;
* `Agenda.next_picks`   the next cue is the first of those that are read;
* `Agenda.takeLine_ahead`   a cue that lets no turns pass comes nearer, or is taken;
* `Backdrop.Queued`     so many runs have begun; the others wait in the line, or are about to ask for
                        their turn, each behind those that came before; one run at most has its turn,
                        and if none has, the first one in the line is about to get it;
* `Deals.queued`        so it stays whatever the run does that has begun last;
* `Queued.enters`, `Queued.takes`   and when a run joins the line, or gets its turn.
-/

set_option linter.unusedSectionVars false

namespace Lamplighter

namespace Agenda

variable {α β : Type} {agenda later : Agenda α} {cue : α} {line rest : List (Pending α)}
  {read : α → Option β}

/-! ### Reading an agenda -/

/-- what is read off the cues of a line -/
def picks (read : α → Option β) (line : List (Pending α)) : List β :=
  line.filterMap fun entry => read entry.cue

@[simp] lemma picks_append (read : α → Option β) (line more : List (Pending α)) :
    picks read (line ++ more) = picks read line ++ picks read more :=
  List.filterMap_append

lemma picks_cons (read : α → Option β) (turns : Nat) (cue : α) (line : List (Pending α)) :
    picks read (⟨turns, cue⟩ :: line) = (read cue).toList ++ picks read line := by
  unfold picks
  cases h : read cue <;> simp [h]

@[simp] lemma picks_singleton (read : α → Option β) (turns : Nat) (cue : α) :
    picks read [⟨turns, cue⟩] = (read cue).toList := by
  unfold picks
  cases h : read cue <;> simp [h]

/-- what is not read can be dropped -/
lemma picks_drop {unwanted : α → Bool} (h : ∀ cue, unwanted cue = true → read cue = none)
    (agenda : Agenda α) : picks read (agenda.drop unwanted).line = picks read agenda.line := by
  unfold picks drop
  rw [List.filterMap_filter]
  refine List.filterMap_congr fun entry _ => ?_
  cases hunwanted : unwanted entry.cue with
  | false => rfl
  | true => simp [h entry.cue hunwanted]

/-- what is read is in the line, and lets no turns pass -/
structure Prompt (read : α → Option β) (agenda : Agenda α) : Prop where
  turns : ∀ entry ∈ agenda.line, (read entry.cue).isSome = true → entry.turns = 0
  timers : ∀ timer ∈ agenda.timers, read timer.entry.cue = none

lemma Prompt.soon (h : agenda.Prompt read) (cue : α) : (agenda.soon 0 cue).Prompt read := by
  refine ⟨fun entry hmem hread => ?_, h.timers⟩
  rcases List.mem_append.mp hmem with hold | hnew
  · exact h.turns entry hold hread
  · rw [List.mem_singleton.mp hnew]

lemma Prompt.drop (h : agenda.Prompt read) (unwanted : α → Bool) :
    (agenda.drop unwanted).Prompt read :=
  ⟨fun entry hmem => h.turns entry (List.mem_filter.mp hmem).1,
    fun timer hmem => h.timers timer (List.mem_filter.mp hmem).1⟩

/-- cues that have turns to let pass go to the end of the line, and are not read -/
lemma takeLine_picks (h : takeLine line = some (cue, rest))
    (hturns : ∀ entry ∈ line, (read entry.cue).isSome = true → entry.turns = 0) :
    picks read line = (read cue).toList ++ picks read rest ∧
      ∀ entry ∈ rest, (read entry.cue).isSome = true → entry.turns = 0 := by
  fun_induction takeLine line with
  | case1 => cases h
  | case2 cue' rest' =>
    obtain ⟨rfl, rfl⟩ := Prod.mk.inj (Option.some.inj h)
    exact ⟨picks_cons read 0 cue' rest', fun entry hmem => hturns entry (List.mem_cons_of_mem _ hmem)⟩
  | case3 n cue' rest' ih =>
    have hnone : read cue' = none := by
      by_contra hsome
      have hzero := hturns ⟨n + 1, cue'⟩ (List.mem_cons_self ..) (Option.isSome_iff_ne_none.mpr hsome)
      exact Nat.succ_ne_zero n hzero
    obtain ⟨hpicks, hrest⟩ := ih h fun entry hmem hread => by
      rcases List.mem_append.mp hmem with hold | hlast
      · exact hturns entry (List.mem_cons_of_mem _ hold) hread
      · obtain rfl := List.mem_singleton.mp hlast
        rw [hnone] at hread
        cases hread
    refine ⟨?_, hrest⟩
    rw [← hpicks, picks_append, picks_singleton, picks_cons, hnone, Option.toList_none,
      List.nil_append, List.append_nil]

/-- the next cue is the first one that is read, or is not read -/
theorem next_picks (h : agenda.next? = some (cue, later)) (hprompt : agenda.Prompt read) :
    picks read agenda.line = (read cue).toList ++ picks read later.line ∧ later.Prompt read := by
  unfold next? at h
  split at h
  · rename_i cue' rest htaken
    obtain ⟨rfl, rfl⟩ := Prod.mk.inj (Option.some.inj h)
    obtain ⟨hpicks, hturns⟩ := takeLine_picks htaken hprompt.turns
    exact ⟨hpicks, hturns, hprompt.timers⟩
  · rename_i hnone
    dsimp only at h
    split at h
    · rename_i cue' rest htaken
      obtain ⟨rfl, rfl⟩ := Prod.mk.inj (Option.some.inj h)
      obtain ⟨hline, htimers⟩ : (∀ entry ∈ agenda.advance.line, read entry.cue = none) ∧
          ∀ timer ∈ agenda.advance.timers, read timer.entry.cue = none := by
        unfold advance
        split
        · refine ⟨?_, hprompt.timers⟩
          rw [takeLine_eq_none_iff.mp hnone]
          simp
        · refine ⟨fun entry hmem => ?_, fun timer hmem =>
            hprompt.timers timer ((List.dropWhile_sublist _).subset hmem)⟩
          have hmem : entry ∈ agenda.line ++ _ := hmem
          rw [takeLine_eq_none_iff.mp hnone, List.nil_append] at hmem
          obtain ⟨timer, hdue, rfl⟩ := List.mem_map.mp hmem
          exact hprompt.timers timer ((List.takeWhile_sublist _).subset hdue)
      have hnever : ∀ entry ∈ agenda.advance.line, (read entry.cue).isSome = true → entry.turns = 0 := by
        intro entry hmem hread
        rw [hline entry hmem] at hread
        cases hread
      obtain ⟨hpicks, hturns⟩ := takeLine_picks htaken hnever
      refine ⟨?_, hturns, htimers⟩
      rw [← hpicks, takeLine_eq_none_iff.mp hnone]
      exact (List.filterMap_eq_nil_iff.mpr hline).symm
    · cases h

/-! ### Coming nearer -/

/-- how many cues are before the first one that is wanted -/
def ahead (wanted : α → Bool) (line : List (Pending α)) : Nat :=
  line.findIdx fun entry => wanted entry.cue

/-- a wanted cue is in the line, and lets no turns pass -/
def Awaits (wanted : α → Bool) (line : List (Pending α)) : Prop :=
  (∃ entry ∈ line, wanted entry.cue = true) ∧ ∀ entry ∈ line, wanted entry.cue = true → entry.turns = 0

lemma takeLine_ahead {wanted : α → Bool} (h : takeLine line = some (cue, rest))
    (hwanted : Awaits wanted line) :
    wanted cue = true ∨ Awaits wanted rest ∧ ahead wanted rest < ahead wanted line := by
  fun_induction takeLine line with
  | case1 => cases h
  | case2 cue' rest' =>
    obtain ⟨rfl, rfl⟩ := Prod.mk.inj (Option.some.inj h)
    obtain ⟨⟨entry, hmem, hentry⟩, hturns⟩ := hwanted
    by_cases hcue : wanted cue' = true
    · exact .inl hcue
    · rcases List.mem_cons.mp hmem with rfl | hrest
      · exact absurd hentry hcue
      · refine .inr ⟨⟨⟨entry, hrest, hentry⟩,
          fun entry hmem => hturns entry (List.mem_cons_of_mem _ hmem)⟩, ?_⟩
        simp [ahead, List.findIdx_cons, hcue]
  | case3 n cue' rest' ih =>
    obtain ⟨⟨entry, hmem, hentry⟩, hturns⟩ := hwanted
    have hcue : wanted cue' = false := by
      by_contra hcue
      have hzero := hturns ⟨n + 1, cue'⟩ (List.mem_cons_self ..) (Bool.eq_true_of_not_eq_false hcue)
      exact Nat.succ_ne_zero n hzero
    have hrest : entry ∈ rest' := by
      rcases List.mem_cons.mp hmem with rfl | hrest
      · exact absurd hentry (by simp [hcue])
      · exact hrest
    have hbehind : Awaits wanted (rest' ++ [⟨n, cue'⟩]) := by
      refine ⟨⟨entry, List.mem_append_left _ hrest, hentry⟩, fun entry hmem hwants => ?_⟩
      rcases List.mem_append.mp hmem with hold | hlast
      · exact hturns entry (List.mem_cons_of_mem _ hold) hwants
      · obtain rfl := List.mem_singleton.mp hlast
        rw [hcue] at hwants
        cases hwants
    have hsame : ahead wanted (rest' ++ [⟨n, cue'⟩]) = ahead wanted rest' := by
      rw [ahead, List.findIdx_append, if_pos (List.findIdx_lt_length_of_exists ⟨entry, hrest, hentry⟩)]
      rfl
    have hnearer : ahead wanted (⟨n.succ, cue'⟩ :: rest') = ahead wanted rest' + 1 := by
      simp [ahead, List.findIdx_cons, hcue]
    rcases ih h hbehind with htaken | ⟨hthere, hless⟩
    · exact .inl htaken
    · exact .inr ⟨hthere, by omega⟩

end Agenda

/-! ### Turns -/

namespace Cue

/-- the run that asks for its turn -/
def enters? : Cue → Option Nat
  | .enter r => some r
  | _ => none

/-- the run that is about to get its turn -/
def takes? : Cue → Option Nat
  | .takeTurn r => some r
  | _ => none

/-- the run that asks for its turn, or is about to get it -/
def turnOf? (cue : Cue) : Option Nat :=
  cue.enters?.or cue.takes?

end Cue

namespace Backdrop

open Agenda

variable {b b' : Backdrop} {r q begun : Nat} {core : Run.Core}

/-- so many runs have begun, and the others wait -/
structure Queued (b : Backdrop) (begun : Nat) : Prop where
  bound : begun ≤ b.runs.length
  /-- in the line, and behind it, in the order in which they came -/
  waiting : b.line ++ picks Cue.enters? b.cues.line = List.range' begun (b.runs.length - begun)
  /-- if no run has its turn, the first one in the line is about to get it -/
  taking : picks Cue.takes? b.cues.line = if b.turn = none then b.line.head?.toList else []
  prompt : b.cues.Prompt Cue.turnOf?
  /-- only the one that has begun last can have its turn -/
  holder : ∀ r, b.turn = some r → r + 1 = begun
  /-- and only a run that has its turn has begun and not ended -/
  open_iff : ∀ r core, b.runs[r]? = some core → r < begun →
    (core.outcome = none ↔ b.turn = some r)
  fresh : ∀ r core, b.runs[r]? = some core → begun ≤ r → core.phase = .idle ∧ core.outcome = none

lemma line_pass (b : Backdrop) (r : Nat) : (b.pass r).line = b.line := by
  unfold pass
  split
  · split <;> rfl
  · rfl

namespace Queued

/-- nothing is changed but what the queue is not about -/
lemma of_same (h : b.Queued begun) (hruns : b'.runs = b.runs) (hline : b'.line = b.line)
    (hturn : b'.turn = b.turn) (hcues : b'.cues = b.cues) : b'.Queued begun :=
  ⟨hruns ▸ h.bound, by rw [hline, hcues, hruns]; exact h.waiting,
    by rw [hcues, hturn, hline]; exact h.taking, hcues ▸ h.prompt, hturn ▸ h.holder,
    by rw [hruns, hturn]; exact h.open_iff, hruns ▸ h.fresh⟩

/-- cues are set and dropped that are about no turn -/
lemma of_cues (h : b.Queued begun) {cues : Agenda Cue}
    (henters : picks Cue.enters? cues.line = picks Cue.enters? b.cues.line)
    (htakes : picks Cue.takes? cues.line = picks Cue.takes? b.cues.line)
    (hprompt : cues.Prompt Cue.turnOf?) : { b with cues }.Queued begun :=
  ⟨h.bound, henters ▸ h.waiting, htakes ▸ h.taking, hprompt, h.holder, h.open_iff, h.fresh⟩

/-- the run that has begun last is changed, but for its end -/
lemma modify (h : b.Queued begun) (hr : r + 1 = begun) (change : Run.Core → Run.Core)
    (hopen : ∀ core, (change core).outcome = core.outcome) : (b.modify r change).Queued begun := by
  have hlength : (b.modify r change).runs.length = b.runs.length := List.length_modify ..
  have hold : ∀ {q : Nat} {core : Run.Core}, (b.modify r change).runs[q]? = some core → ∃ old,
      b.runs[q]? = some old ∧ core.outcome = old.outcome ∧ (r ≠ q → core = old) := by
    intro q core hcore
    have hcore : (b.runs.modify r change)[q]? = some core := hcore
    rw [List.getElem?_modify] at hcore
    obtain ⟨old, hget, rfl⟩ := Option.map_eq_some_iff.mp hcore
    refine ⟨old, hget, ?_, fun hne => if_neg hne⟩
    split
    · exact hopen old
    · rfl
  refine ⟨hlength ▸ h.bound, hlength ▸ h.waiting, h.taking, h.prompt, h.holder, ?_, ?_⟩
  · intro q core hcore hq
    obtain ⟨old, hget, houtcome, -⟩ := hold hcore
    rw [houtcome]
    exact h.open_iff q old hget hq
  · intro q core hcore hq
    obtain ⟨old, hget, -, hsame⟩ := hold hcore
    rw [hsame (by omega)]
    exact h.fresh q old hget hq

/-- a run ends, and the first one in the line is about to get the turn that it had -/
lemma finish (h : b.Queued begun) (hr : r + 1 = begun) (outcome : Except Fault Summary) :
    (b.finish r outcome).Queued begun := by
  have hlength : (b.finish r outcome).runs.length = b.runs.length := by
    rw [Backdrop.finish, runs_pass]
    exact List.length_modify ..
  have hcores : ∀ {q : Nat} {core : Run.Core}, (b.finish r outcome).runs[q]? = some core →
      ∃ old, b.runs[q]? = some old ∧
        if r = q then core.outcome = some outcome else core = old := by
    intro q core hcore
    rw [Backdrop.finish, runs_pass] at hcore
    have hcore : (b.runs.modify r _)[q]? = some core := hcore
    rw [List.getElem?_modify] at hcore
    obtain ⟨old, hget, rfl⟩ := Option.map_eq_some_iff.mp hcore
    refine ⟨old, hget, ?_⟩
    split <;> rfl
  have hfresh : ∀ q core, (b.finish r outcome).runs[q]? = some core → begun ≤ q →
      core.phase = .idle ∧ core.outcome = none := by
    intro q core hcore hq
    obtain ⟨old, hget, hsame⟩ := hcores hcore
    rw [if_neg (by omega)] at hsame
    rw [hsame]
    exact h.fresh q old hget hq
  have hopen : (∀ q, (b.finish r outcome).turn = some q ↔ b.turn = some q ∧ r ≠ q) →
      ∀ q core, (b.finish r outcome).runs[q]? = some core → q < begun →
        (core.outcome = none ↔ (b.finish r outcome).turn = some q) := by
    intro hturn q core hcore hq
    obtain ⟨old, hget, hsame⟩ := hcores hcore
    rw [hturn]
    by_cases hrq : r = q
    · rw [if_pos hrq] at hsame
      simp [hsame, hrq]
    · rw [if_neg hrq] at hsame
      rw [hsame, h.open_iff q old hget hq]
      simp [hrq]
  have hwaiting := h.waiting
  have htaking := h.taking
  rw [← hlength] at hwaiting
  by_cases hturn : b.turn = some r
  · have hnone : (b.finish r outcome).turn = none := by
      unfold Backdrop.finish pass
      rw [if_pos (show (b.modify r _).turn = some r from hturn)]
      split <;> rfl
    have hopen := hopen fun q => by
      rw [hnone, hturn]
      simp
    have hline : (b.finish r outcome).line = b.line := line_pass ..
    rw [hturn, if_neg (by simp)] at htaking
    cases hwaits : b.line with
    | nil =>
      have hcues : (b.finish r outcome).cues = b.cues := by
        unfold Backdrop.finish pass
        rw [if_pos (show (b.modify r _).turn = some r from hturn),
          show (b.modify r _).line = [] from hwaits]
        rfl
      refine ⟨hlength ▸ h.bound, by rw [hline, hcues]; exact hwaiting, ?_, hcues ▸ h.prompt, ?_,
        hopen, hfresh⟩
      · rw [hcues, hnone, hline, hwaits, htaking]
        rfl
      · simp [hnone]
    | cons next rest =>
      have hcues : (b.finish r outcome).cues = b.cues.soon 0 (.takeTurn next) := by
        unfold Backdrop.finish pass
        rw [if_pos (show (b.modify r _).turn = some r from hturn),
          show (b.modify r _).line = next :: rest from hwaits]
        rfl
      refine ⟨hlength ▸ h.bound, ?_, ?_, hcues ▸ h.prompt.soon _, ?_, hopen, hfresh⟩
      · rw [hline, hcues, ← hwaiting]
        simp [Agenda.soon, Cue.enters?]
      · rw [hcues, hnone, hline, hwaits]
        simp [Agenda.soon, Cue.takes?, htaking]
      · simp [hnone]
  · have hsame : b.finish r outcome = b.modify r fun core => { core with outcome := some outcome } := by
      unfold Backdrop.finish pass
      rw [if_neg (show (b.modify r _).turn ≠ some r from hturn)]
    have hopen := hopen fun q => by
      rw [hsame]
      show b.turn = some q ↔ _
      refine ⟨fun hq => ⟨hq, ?_⟩, And.left⟩
      rintro rfl
      exact hturn hq
    rw [hsame] at hlength hwaiting hfresh hopen ⊢
    exact ⟨hlength ▸ h.bound, hwaiting, htaking, h.prompt, h.holder, hopen, hfresh⟩

end Queued

/-- one case for each deal of the run that has begun last -/
theorem Deal.queued (h : Deal r b b') (hr : r + 1 = begun) (hb : b.Queued begun) : b'.Queued begun := by
  cases h with
  | ready | tick => exact hb.modify hr _ fun _ => rfl
  | @seek core here idle =>
    have hsought := hb.modify hr (fun core => { core with phase := .discovering }) fun _ => rfl
    exact hsought.of_same rfl rfl rfl rfl
  | listen | dispatch | file => exact hb.of_same rfl rfl rfl rfl
  | clock here looks =>
    refine hb.of_cues ?_ ?_ (hb.prompt.soon _)
    · simp [Agenda.soon, Cue.enters?]
    · simp [Agenda.soon, Cue.takes?]
  | @wind core cues here looks line timers =>
    have hread : ∀ read : Cue → Option Nat, read (.tick r) = none →
        picks read cues.line = picks read b.cues.line := by
      intro read hnone
      rcases line with hsame | hmore
      · rw [hsame]
      · rw [hmore, picks_append, picks_singleton, hnone]
        exact List.append_nil _
    refine hb.of_cues (hread _ rfl) (hread _ rfl) ⟨fun entry hmem hturn => ?_, fun timer hmem => ?_⟩
    · rcases line with hsame | hmore
      · exact hb.prompt.turns entry (hsame ▸ hmem) hturn
      · rw [hmore] at hmem
        rcases List.mem_append.mp hmem with hold | hnew
        · exact hb.prompt.turns entry hold hturn
        · rw [List.mem_singleton.mp hnew]
    · rcases timers timer hmem with hold | htick
      · exact hb.prompt.timers timer hold
      · rw [htick]
        rfl
  | @stop core here looks =>
    have hstopped := hb.modify hr (fun core =>
      { core with phase := if core.phase = .discovering then .draining else core.phase }) fun _ => rfl
    have hclock : ∀ read : Cue → Option Nat, (∀ cue, cue.isClockOf r = true → read cue = none) →
        picks read (b.cues.drop fun cue => cue.isClockOf r).line = picks read b.cues.line :=
      fun read hread => picks_drop hread _
    refine (hstopped.of_cues (hclock _ ?_) (hclock _ ?_) (hb.prompt.drop _)).of_same rfl rfl rfl rfl
    · intro cue hcue
      cases cue <;> first | rfl | cases hcue
    · intro cue hcue
      cases cue <;> first | rfl | cases hcue
  | complete => exact hb.modify hr _ fun _ => rfl
  | finish here rests outcome => exact hb.finish hr outcome

/-- whatever the run does that has begun last -/
theorem Deals.queued (h : Deals r b b') (hr : r + 1 = begun) (hb : b.Queued begun) :
    b'.Queued begun := by
  induction h with
  | refl => exact hb
  | tail _ hdeal ih => exact hdeal.queued hr ih

/-! ### Coming and going -/

namespace Queued

/-- a run is added, and asks for its turn behind all others -/
lemma enqueue (h : b.Queued begun) (hphase : core.phase = .idle) (hopen : core.outcome = none) :
    { b with runs := b.runs ++ [core], cues := b.cues.soon 0 (.enter b.runs.length) }.Queued begun := by
  have hbound := h.bound
  have hlength : (b.runs ++ [core]).length = b.runs.length + 1 := by simp
  refine ⟨by rw [hlength]; omega, ?_, ?_, h.prompt.soon _, h.holder, ?_, ?_⟩
  · show b.line ++ picks Cue.enters? (b.cues.line ++ [⟨0, .enter b.runs.length⟩]) = _
    rw [picks_append, ← List.append_assoc, h.waiting, hlength, Nat.succ_sub hbound, List.range'_concat]
    simp [Cue.enters?]
    omega
  · show picks Cue.takes? (b.cues.line ++ [⟨0, .enter b.runs.length⟩]) = _
    rw [picks_append, h.taking]
    exact List.append_nil _
  · intro r core' hcore hr
    rw [List.getElem?_append_left (by omega)] at hcore
    exact h.open_iff r core' hcore hr
  · intro r core' hcore hr
    rw [List.getElem?_append] at hcore
    split at hcore
    · exact h.fresh r core' hcore hr
    · obtain rfl := List.mem_singleton.mp (List.mem_of_getElem? hcore)
      exact ⟨hphase, hopen⟩

/-- no run has its turn, and the one that came first gets it -/
lemma begins (h : b.Queued begun) (hturn : b.turn = none)
    {line : List Nat} {cues : Agenda Cue}
    (hwaiting : r :: (line ++ picks Cue.enters? cues.line)
      = List.range' begun (b.runs.length - begun))
    (htaking : picks Cue.takes? cues.line = []) (hprompt : cues.Prompt Cue.turnOf?) :
    r = begun ∧ { b with line, turn := some r, cues }.Queued (begun + 1) := by
  obtain ⟨count, hcount⟩ : ∃ count, b.runs.length - begun = count + 1 := by
    cases hcount : b.runs.length - begun with
    | zero =>
      rw [hcount] at hwaiting
      cases hwaiting
    | succ count => exact ⟨count, rfl⟩
  rw [hcount, List.range'_succ] at hwaiting
  obtain ⟨rfl, hrest⟩ := List.cons.inj hwaiting
  refine ⟨rfl, by show r + 1 ≤ b.runs.length; omega, ?_, by simpa using htaking, hprompt, ?_, ?_, ?_⟩
  · rw [hrest, show b.runs.length - (r + 1) = count by omega]
  · rintro q hq
    exact congrArg (· + 1) (Option.some.inj hq).symm
  · intro q core hcore hq
    show _ ↔ some r = some q
    rcases Nat.lt_succ_iff_lt_or_eq.mp hq with hlt | rfl
    · rw [h.open_iff q core hcore hlt, hturn]
      simp
      omega
    · simp [(h.fresh q core hcore (Nat.le_refl q)).2]
  · intro q core hcore hq
    exact h.fresh q core hcore (by omega)

end Queued

end Backdrop

namespace Session

open Agenda Backdrop

variable {ν : Type} {s : Session (Recorded ν)} {cue : Cue} {agenda : Agenda Cue} {r begun : Nat}

/-! ### The next cue -/

lemma picks_backdrop {read : Cue → Option Nat} (h : ∀ cue, cue.isInner = false → read cue = none) :
    picks read s.backdrop.cues.line = picks read s.agenda.line :=
  picks_drop (fun cue hcue => h cue (by simpa using hcue)) _

lemma turnOf?_eq_none (hcue : cue.isInner = false) : cue.turnOf? = none := by
  cases cue <;> first | rfl | cases hcue

lemma enters?_eq_none (h : cue.turnOf? = none) : cue.enters? = none := by
  cases cue <;> first | rfl | cases h

lemma takes?_eq_none (h : cue.turnOf? = none) : cue.takes? = none := by
  cases cue <;> first | rfl | cases h

lemma prompt_backdrop : s.backdrop.cues.Prompt Cue.turnOf? ↔ s.agenda.Prompt Cue.turnOf? := by
  refine ⟨fun h => ⟨fun entry hmem hturn => ?_, fun timer hmem => ?_⟩, fun h => h.drop fun cue => !cue.isInner⟩
  · refine h.turns entry (List.mem_filter.mpr ⟨hmem, ?_⟩) hturn
    by_contra hinner
    rw [turnOf?_eq_none (by simpa using hinner)] at hturn
    cases hturn
  · by_contra hturn
    refine hturn (h.timers timer (List.mem_filter.mpr ⟨hmem, ?_⟩))
    by_contra hinner
    exact hturn (turnOf?_eq_none (by simpa using hinner))

/-- the next cue is the first of those that are about turns, or is about none -/
lemma turns_next (h : s.backdrop.Queued begun) (hnext : s.agenda.next? = some (cue, agenda)) :
    let t : Session (Recorded ν) := { s with agenda }
    s.line ++ (cue.enters?.toList ++ picks Cue.enters? t.backdrop.cues.line)
      = List.range' begun (s.backdrop.runs.length - begun) ∧
    cue.takes?.toList ++ picks Cue.takes? t.backdrop.cues.line
      = (if s.turn = none then s.line.head?.toList else []) ∧
    t.backdrop.cues.Prompt Cue.turnOf? := by
  intro t
  have hprompt := prompt_backdrop.mp h.prompt
  have hread : ∀ read : Cue → Option Nat, (∀ cue, cue.turnOf? = none → read cue = none) →
      picks read s.backdrop.cues.line = (read cue).toList ++ picks read t.backdrop.cues.line := by
    intro read hnone
    have hinner : ∀ cue : Cue, cue.isInner = false → read cue = none :=
      fun cue hcue => hnone cue (turnOf?_eq_none hcue)
    have hreads : s.agenda.Prompt read := by
      refine ⟨fun entry hmem hsome => hprompt.turns entry hmem ?_,
        fun timer hmem => hnone _ (hprompt.timers timer hmem)⟩
      by_contra hturn
      rw [hnone _ (by simpa using hturn)] at hsome
      cases hsome
    rw [picks_backdrop hinner, picks_backdrop hinner]
    exact (next_picks hnext hreads).1
  have hwaiting := h.waiting
  have htaking := h.taking
  rw [hread _ fun _ => enters?_eq_none] at hwaiting
  rw [hread _ fun _ => takes?_eq_none] at htaking
  exact ⟨hwaiting, htaking, prompt_backdrop.mpr (next_picks hnext hprompt).2⟩

/-- a cue is taken that is about no turn -/
lemma queued_next (h : s.backdrop.Queued begun) (hnext : s.agenda.next? = some (cue, agenda))
    (hcue : cue.turnOf? = none) : ({ s with agenda } : Session (Recorded ν)).backdrop.Queued begun := by
  obtain ⟨hwaiting, htaking, hprompt⟩ := turns_next h hnext
  rw [enters?_eq_none hcue] at hwaiting
  rw [takes?_eq_none hcue] at htaking
  exact ⟨h.bound, hwaiting, htaking, hprompt, h.holder, h.open_iff, h.fresh⟩

/-- a run asks for its turn, and waits behind those that asked before -/
lemma queued_enter (h : s.backdrop.Queued begun) (hnext : s.agenda.next? = some (.enter r, agenda))
    (hwaits : (s.turn.isSome || !s.line.isEmpty) = true) :
    ({ s with agenda, line := s.line ++ [r] } : Session (Recorded ν)).backdrop.Queued begun := by
  obtain ⟨hwaiting, htaking, hprompt⟩ := turns_next h hnext
  refine ⟨h.bound, ?_, ?_, hprompt, h.holder, h.open_iff, h.fresh⟩
  · rw [← List.append_assoc] at hwaiting
    exact hwaiting
  · refine htaking.trans ?_
    show _ = if s.turn = none then (s.line ++ [r]).head?.toList else []
    split
    · rename_i hturn
      rw [hturn] at hwaits
      cases hline : s.line with
      | nil =>
        rw [hline] at hwaits
        cases hwaits
      | cons first rest => rfl
    · rfl

/-- a run asks for its turn, and gets it -/
lemma queued_enter_begins (h : s.backdrop.Queued begun)
    (hnext : s.agenda.next? = some (.enter r, agenda))
    (hfree : (s.turn.isSome || !s.line.isEmpty) = false) :
    r = begun ∧ ({ s with
      agenda, turn := some r, line := s.line.filter fun waiting => waiting != r }
      : Session (Recorded ν)).backdrop.Queued (begun + 1) := by
  obtain ⟨hturn, hline⟩ : s.turn = none ∧ s.line = [] := by simpa using hfree
  obtain ⟨hwaiting, htaking, hprompt⟩ := turns_next h hnext
  rw [hline] at hwaiting htaking ⊢
  refine h.begins hturn hwaiting ?_ hprompt
  refine htaking.trans ?_
  rw [if_pos hturn]
  rfl

/-- the first run in the line gets its turn -/
lemma queued_takeTurn (h : s.backdrop.Queued begun)
    (hnext : s.agenda.next? = some (.takeTurn r, agenda)) :
    r = begun ∧ ({ s with
      agenda, turn := some r, line := s.line.filter fun waiting => waiting != r }
      : Session (Recorded ν)).backdrop.Queued (begun + 1) := by
  obtain ⟨hwaiting, htaking, hprompt⟩ := turns_next h hnext
  have hturn : s.turn = none := by
    by_contra hturn
    rw [if_neg hturn] at htaking
    cases htaking
  rw [if_pos hturn] at htaking
  cases hline : s.line with
  | nil =>
    rw [hline] at htaking
    cases htaking
  | cons first rest =>
    rw [hline] at htaking hwaiting
    obtain ⟨rfl, htaken⟩ : r = first ∧ picks Cue.takes?
        ({ s with agenda } : Session (Recorded ν)).backdrop.cues.line = [] := List.cons.inj htaking
    have hrest : (r :: rest).filter (fun waiting => waiting != r) = rest := by
      have hnodup := List.nodup_range' (s := begun) (n := s.backdrop.runs.length - begun)
      rw [← hwaiting] at hnodup
      have hout := (List.nodup_cons.mp hnodup).1
      rw [List.filter_cons_of_neg (by simp), List.filter_eq_self]
      intro waiting hmem
      refine bne_iff_ne.mpr ?_
      rintro rfl
      exact hout (List.mem_append_left _ hmem)
    rw [hrest]
    exact h.begins hturn hwaiting htaken hprompt

end Session

end Lamplighter
