import Lamplighter.Proofs.Run.Solo

/-!
# Attendance: what an errand waits for, and how long it can go on

* `Errand.Attended`   an errand waits for just those cues that it needs to go on;
* `Errand.needed`     the one that brings it on for certain;
* `Solo.rank`         a bound on the steps that are left to an errand: each request costs a reply of
                      the script or a retry;
* `Has.turn`          with each of its cues an errand stays attended, and comes nearer to its end or
                      still waits for the cue that it needs.
-/

namespace Lamplighter

/-! ### The cues of an errand -/

namespace Errand

def deadline (errand : Errand) (e : Nat) : List Cue :=
  if errand.timeout = .endless then [] else [.expire e]

def Attended (errand : Errand) (e : Nat) (cues : List Cue) : Prop :=
  match errand.stage with
  | .fresh play => play.IsPlain ∧ cues.Perm [.begin e]
  | .asking next _ => (∀ state, (next state).IsQuick) ∧ ∃ sent : List Cue,
      (sent = [] ∨ sent = [.attempt e] ∨ ∃ answer, sent = [.arrive e .read answer]) ∧
      cues.Perm (errand.deadline e ++ sent)
  | .answered next _ _ => (∀ state, (next state).IsQuick) ∧
      (cues.Perm [.resume e] ∨ cues.Perm (.resume e :: errand.deadline e))
  | .sending _ => False
  | .over outcome => (∃ reply, outcome = .ok reply) ∧ cues = []

/-- the cue that brings an errand on, whatever else comes -/
def needed (errand : Errand) (e : Nat) : Cue :=
  match errand.stage with
  | .fresh _ => .begin e
  | .asking _ _ => .expire e
  | _ => .resume e

variable {errand : Errand} {e : Nat} {cues cues' : List Cue}

lemma Attended.perm (h : errand.Attended e cues) (hperm : cues'.Perm cues) :
    errand.Attended e cues' := by
  unfold Attended at h ⊢
  split
  · rename_i play hstage
    simp only [hstage] at h
    exact ⟨h.1, hperm.trans h.2⟩
  · rename_i next retries hstage
    simp only [hstage] at h
    obtain ⟨hnext, sent, hsent, hcues⟩ := h
    exact ⟨hnext, sent, hsent, hperm.trans hcues⟩
  · rename_i next retries result hstage
    simp only [hstage] at h
    exact ⟨h.1, h.2.imp hperm.trans hperm.trans⟩
  · rename_i next hstage
    simp only [hstage] at h
  · rename_i outcome hstage
    simp only [hstage] at h
    rw [h.2, List.perm_nil] at hperm
    exact ⟨h.1, hperm⟩

theorem Attended.needed_mem (h : errand.Attended e cues) (hfinite : errand.timeout ≠ .endless)
    (hopen : errand.isOver = false) : errand.needed e ∈ cues := by
  unfold Attended at h
  unfold needed
  cases hstage : errand.stage with
  | fresh play =>
    simp only [hstage] at h ⊢
    exact h.2.mem_iff.mpr (List.mem_singleton_self _)
  | asking next retries =>
    simp only [hstage] at h ⊢
    obtain ⟨_, sent, _, hcues⟩ := h
    rw [deadline, if_neg hfinite] at hcues
    exact hcues.mem_iff.mpr (List.mem_cons_self ..)
  | answered next retries result =>
    simp only [hstage] at h ⊢
    rcases h.2 with hcues | hcues
    · exact hcues.mem_iff.mpr (List.mem_singleton_self _)
    · exact hcues.mem_iff.mpr (List.mem_cons_self ..)
  | sending next =>
    simp only [hstage] at h
  | _ =>
    rw [isOver, outcome?, hstage] at hopen
    cases hopen

end Errand

/-! ### How long an errand can go on -/

namespace Cue

def isArrival : Cue → Bool
  | .arrive _ _ _ => true
  | _ => false

end Cue

/-- the replies that are left in the script of the bulb -/
def Corner.supply (corner : Corner) : Nat :=
  (corner.bulb.map fun bulb => bulb.replies.length).getD 0

def Errand.retriesLeft (errand : Errand) (retries : Nat) : Nat :=
  (errand.maxRetries - retries).toNat

/-- an answer that lets the errand ask again at no cost has cost a reply -/
def Errand.weight (errand : Errand) : Nat :=
  match errand.stage with
  | .fresh _ => 3 * errand.retriesLeft 0 + 3
  | .asking _ retries => 3 * errand.retriesLeft retries + 2
  | .answered _ retries result =>
    match Query.judge errand.handle errand.maxRetries retries result with
    | .again retries => 3 * errand.retriesLeft retries + 3
    | _ => 1
  | _ => 0

namespace Solo

/-- a bound on the steps that are left to an errand that waits for some cues -/
def rank (solo : Solo) (cues : List Cue) : Nat :=
  3 * solo.corner.supply + 2 * cues.countP Cue.isArrival + solo.errand.weight

variable {solo : Solo}

@[simp] lemma supply_send (solo : Solo) {request : Request} (h : request ≠ .read) :
    (solo.send request).1.corner.supply = solo.corner.supply := by
  unfold send
  dsimp only
  split
  · rename_i hnone
    simp [Corner.supply, hnone]
  · rename_i bulb hsome
    cases request with
    | read => exact absurd rfl h
    | _ => simp [Corner.supply, hsome, BenchBulb.take]

@[simp] lemma supply_settle (solo : Solo) (request : Request) (answer : Answer) :
    (solo.settle request answer).1.corner.supply = solo.corner.supply := by
  unfold settle
  split
  · rfl
  · rfl
  · rfl
  · rename_i bulb hsome
    simp [Corner.supply, hsome]

lemma supply_follow (solo : Solo) {play : Play} (hquick : play.IsQuick) :
    (solo.follow play).corner.supply = solo.corner.supply := by
  induction play generalizing solo with
  | done reply => rfl
  | ask next => exact hquick.elim
  | keep state next ih => exact ih solo hquick
  | report message data next ih => exact ih solo hquick
  | send request next ih =>
    have hsupply : (solo.request request).1.corner.supply = solo.corner.supply :=
      (supply_settle _ request _).trans (supply_send solo hquick.1)
    rw [follow_send]
    split
    · exact (ih _ _ (hquick.2 _)).trans hsupply
    · exact hsupply

/-- no answer in time costs a retry, or ends the errand -/
lemma weight_unanswered (errand : Errand) (next : BulbState → Play) (retries : Nat) :
    { errand with stage := .answered next retries none }.weight
      ≤ 3 * errand.retriesLeft retries + 1 := by
  show (match Query.unanswered errand.handle.name errand.maxRetries retries with
    | .again retries => 3 * errand.retriesLeft retries + 3
    | _ => 1) ≤ _
  unfold Query.unanswered
  by_cases hdone : errand.maxRetries ≤ Int.ofNat retries
  · rw [if_pos hdone]
    exact Nat.le_add_left ..
  · rw [if_neg hdone]
    show 3 * (errand.maxRetries - (retries + 1 : Nat)).toNat + 3
      ≤ 3 * (errand.maxRetries - retries).toNat + 1
    rw [Int.ofNat_eq_natCast] at hdone
    omega

/-- any answer lets the errand ask again at most at no cost -/
lemma weight_answered (errand : Errand) (next : BulbState → Play) (retries : Nat)
    (result : Except Fault Reply) :
    { errand with stage := .answered next retries (some result) }.weight
      ≤ 3 * errand.retriesLeft retries + 3 := by
  cases result with
  | error fault =>
    cases fault with
    | timeout text => exact Nat.le_trans (weight_unanswered errand next retries) (by omega)
    | _ => exact Nat.le_add_left ..
  | ok reply =>
    cases reply with
    | nothing => exact Nat.le_refl _
    | state answering state =>
      show (match (if answering.serial = errand.handle.serial then Verdict.take state
        else .again retries) with
        | .again retries => 3 * errand.retriesLeft retries + 3
        | _ => 1) ≤ _
      by_cases hserial : answering.serial = errand.handle.serial
      · rw [if_pos hserial]
        exact Nat.le_add_left ..
      · rw [if_neg hserial]

/-- an answer ends the errand, or it has cost a reply -/
lemma rank_arrive (solo : Solo) (next : BulbState → Play) (retries : Nat) (answer : Answer) :
    (solo.arrive next retries answer).corner.supply = solo.corner.supply ∧
      (solo.arrive next retries answer).errand.weight
        ≤ 3 * solo.errand.retriesLeft retries + 3 := by
  refine ⟨supply_settle solo .read answer, ?_⟩
  have herrand := errand_settle solo .read answer
  unfold arrive
  revert herrand
  generalize solo.settle .read answer = settled
  obtain ⟨solo', result⟩ := settled
  intro herrand
  dsimp only at herrand ⊢
  rw [← herrand]
  exact weight_answered solo'.errand next retries result

lemma weight_ask (solo : Solo) (next : BulbState → Play) (retries : Nat) :
    (solo.ask next retries).errand.weight ≤ 3 * solo.errand.retriesLeft retries + 2 := by
  unfold ask
  split
  · exact Nat.le_trans (weight_unanswered solo.errand next retries) (Nat.le_succ _)
  · exact Nat.le_refl _

@[simp] lemma corner_ask (solo : Solo) (next : BulbState → Play) (retries : Nat) :
    (solo.ask next retries).corner = solo.corner := by
  unfold ask
  split <;> rfl

lemma attempt_eq (solo : Solo) (next : BulbState → Play) (retries : Nat) :
    solo.attempt next retries = match (solo.send .read).2.1 with
      | .atOnce => ((solo.send .read).1.arrive next retries (solo.send .read).2.2, none)
      | .lasting duration => ((solo.send .read).1, some (duration, (solo.send .read).2.2)) := by
  unfold attempt
  generalize solo.send .read = sent
  obtain ⟨solo', wait, answer⟩ := sent
  cases wait <;> rfl

/-- a request that is sent costs a reply, unless the script has run out and the bulb answers -/
lemma rank_attempt (solo : Solo) {next : BulbState → Play} {retries : Nat}
    (hstage : solo.errand.stage = .asking next retries) :
    ((solo.attempt next retries).2 = none →
      (solo.attempt next retries).1.rank [] < solo.rank []) ∧
    ((solo.attempt next retries).2 ≠ none →
      (solo.attempt next retries).1.errand = solo.errand ∧
      (solo.attempt next retries).1.corner.supply + 1 = solo.corner.supply) := by
  have hweight : solo.errand.weight = 3 * solo.errand.retriesLeft retries + 2 := by
    unfold Errand.weight
    rw [hstage]
  have hless := fun answer => rank_arrive (solo.send .read).1 next retries answer
  rw [errand_send] at hless
  have hcheap : ∀ answer, (solo.send .read).1.corner.supply + 1 = solo.corner.supply →
      ((solo.send .read).1.arrive next retries answer).rank [] < solo.rank [] := by
    intro answer hcost
    obtain ⟨hsame, hbound⟩ := hless answer
    rw [rank, rank, hsame, hweight]
    omega
  rw [attempt_eq]
  cases hbulb : solo.corner.bulb with
  | none =>
    have hsent : (solo.send .read).2 = (.atOnce, .fault (.unreachable "unknown bulb")) := by
      simp only [send, hbulb]
    have hnone : (solo.send .read).1.corner.supply = 0 := by simp [send, hbulb, Corner.supply]
    rw [hsent]
    refine ⟨fun _ => ?_, fun hsome => absurd rfl hsome⟩
    obtain ⟨hsame, _⟩ := hless (.fault (.unreachable "unknown bulb"))
    rw [rank, rank, hsame, hnone, hweight]
    show 3 * 0 + 2 * 0 + 1 < _
    omega
  | some bulb =>
    cases hscript : bulb.replies with
    | nil =>
      have hsent : (solo.send .read).2 = (.atOnce, .ok) := by
        simp only [send, hbulb, BenchBulb.take, BenchBulb.nextReply, hscript]
      have hnone : (solo.send .read).1.corner.supply = 0 := by
        simp [send, hbulb, Corner.supply, BenchBulb.take, BenchBulb.nextReply, hscript]
      have htaken : ((solo.send .read).1.arrive next retries .ok).errand.weight = 1 := by
        simp [arrive, settle, send, hbulb, Bench.replyOf, setStage, Errand.weight, Query.judge]
      rw [hsent]
      refine ⟨fun _ => ?_, fun hsome => absurd rfl hsome⟩
      obtain ⟨hsame, _⟩ := hless .ok
      rw [rank, rank, hsame, hnone, hweight, htaken]
      omega
    | cons reply script =>
      have hcost : (solo.send .read).1.corner.supply + 1 = solo.corner.supply := by
        cases reply <;>
          simp [send, hbulb, Corner.supply, BenchBulb.take, BenchBulb.nextReply, hscript]
      cases (solo.send .read).2.1 with
      | atOnce => exact ⟨fun _ => hcheap _ hcost, fun hsome => absurd rfl hsome⟩
      | lasting duration =>
        refine ⟨?_, fun _ => ⟨errand_send solo .read, hcost⟩⟩
        intro hnone
        cases hnone

end Solo

/-! ### Attended errands -/

section
variable {e : Nat} {cue a b : Cue} {rest : List Cue}

lemma cons_perm_singleton (h : (cue :: rest).Perm [a]) : cue = a ∧ rest = [] := by
  simpa using List.perm_singleton.mp h

lemma cons_perm_pair (h : (cue :: rest).Perm [a, b]) :
    (cue = a ∧ rest = [b]) ∨ (cue = b ∧ rest = [a]) := by
  have hmem : cue ∈ [a, b] := h.mem_iff.mp (List.mem_cons_self ..)
  rcases List.mem_pair.mp hmem with rfl | rfl
  · exact .inl ⟨rfl, List.perm_singleton.mp ((List.perm_cons cue).mp h)⟩
  · have hswap := h.trans (List.Perm.swap cue a [])
    exact .inr ⟨rfl, List.perm_singleton.mp ((List.perm_cons cue).mp hswap)⟩

end

namespace Errand

/-- a cue that an errand waits for, with those that it waits for besides -/
inductive Due (errand : Errand) (e : Nat) : Cue → List Cue → Prop
  | begin {play : Play} (stage : errand.stage = .fresh play) (plain : play.IsPlain) :
    Due errand e (.begin e) []
  | attempt {next : BulbState → Play} {retries : Nat} {rest : List Cue}
    (stage : errand.stage = .asking next retries) (quick : ∀ state, (next state).IsQuick)
    (rest_perm : rest.Perm (errand.deadline e)) : Due errand e (.attempt e) rest
  | arrive {next : BulbState → Play} {retries : Nat} {rest : List Cue} (answer : Answer)
    (stage : errand.stage = .asking next retries) (quick : ∀ state, (next state).IsQuick)
    (rest_perm : rest.Perm (errand.deadline e)) : Due errand e (.arrive e .read answer) rest
  | expire {next : BulbState → Play} {retries : Nat} {rest : List Cue}
    (stage : errand.stage = .asking next retries) (quick : ∀ state, (next state).IsQuick) :
    Due errand e (.expire e) rest
  | resume {next : BulbState → Play} {retries : Nat} {result : Option (Except Fault Reply)}
    {rest : List Cue} (stage : errand.stage = .answered next retries result)
    (quick : ∀ state, (next state).IsQuick) : Due errand e (.resume e) rest
  /-- an answer came first, and the deadline has nothing more to say -/
  | late {next : BulbState → Play} {retries : Nat} {result : Option (Except Fault Reply)}
    (stage : errand.stage = .answered next retries result)
    (quick : ∀ state, (next state).IsQuick) : Due errand e (.expire e) [.resume e]

variable {errand : Errand} {e : Nat} {cue : Cue} {rest : List Cue}

lemma Attended.due (h : errand.Attended e (cue :: rest)) : errand.Due e cue rest := by
  unfold Attended at h
  cases hstage : errand.stage with
  | fresh play =>
    simp only [hstage] at h
    obtain ⟨hplain, hperm⟩ := h
    obtain ⟨rfl, rfl⟩ := cons_perm_singleton hperm
    exact .begin hstage hplain
  | asking next retries =>
    simp only [hstage] at h
    obtain ⟨hnext, sent, hsent, hperm⟩ := h
    -- the cue is the deadline, or what became of the request
    have hcue : cue = .expire e ∨ (sent = [cue] ∧ rest.Perm (errand.deadline e)) := by
      unfold deadline at hperm ⊢
      split at hperm
      · rename_i hendless
        rw [if_pos hendless]
        refine .inr ?_
        rcases hsent with rfl | rfl | ⟨answer, rfl⟩
        · exact absurd hperm.length_eq (by simp)
        · obtain ⟨rfl, hnil⟩ := cons_perm_singleton hperm
          exact ⟨rfl, .of_eq hnil⟩
        · obtain ⟨rfl, hnil⟩ := cons_perm_singleton hperm
          exact ⟨rfl, .of_eq hnil⟩
      · rename_i hfinite
        rw [if_neg hfinite]
        rcases hsent with rfl | rfl | ⟨answer, rfl⟩
        · exact .inl (cons_perm_singleton hperm).1
        · exact (cons_perm_pair hperm).imp (·.1) fun ⟨hc, hrest⟩ => ⟨hc ▸ rfl, .of_eq hrest⟩
        · exact (cons_perm_pair hperm).imp (·.1) fun ⟨hc, hrest⟩ => ⟨hc ▸ rfl, .of_eq hrest⟩
    rcases hcue with rfl | ⟨hone, hrest⟩
    · exact .expire hstage hnext
    · rcases hsent with rfl | rfl | ⟨answer, rfl⟩
      · cases hone
      · obtain rfl : Cue.attempt e = cue := by simpa using hone
        exact .attempt hstage hnext hrest
      · obtain rfl : Cue.arrive e .read answer = cue := by simpa using hone
        exact .arrive answer hstage hnext hrest
  | answered next retries result =>
    simp only [hstage] at h
    obtain ⟨hnext, hperm⟩ := h
    have hcue : cue = .resume e ∨ cue = .expire e ∧ rest = [.resume e] := by
      unfold deadline at hperm
      rcases hperm with hperm | hperm
      · exact .inl (cons_perm_singleton hperm).1
      · split at hperm
        · exact .inl (cons_perm_singleton hperm).1
        · exact (cons_perm_pair hperm).imp (·.1) id
    rcases hcue with rfl | ⟨rfl, rfl⟩
    · exact .resume hstage hnext
    · exact .late hstage hnext
  | sending next => simp only [hstage] at h
  | _ =>
    simp only [hstage] at h
    exact absurd h.2 (List.cons_ne_nil _ _)

end Errand

namespace Agenda

variable {α : Type} {agenda : Agenda α}

lemma cleared_of_cues (h : agenda.cues = []) : agenda.cleared = agenda := by
  obtain ⟨now, line, timers⟩ := agenda
  obtain ⟨hline, htimers⟩ := List.append_eq_nil_iff.mp h
  rw [List.map_eq_nil_iff] at hline htimers
  dsimp only at hline htimers
  subst hline htimers
  rfl

@[simp] lemma cues_cleared : agenda.cleared.cues = [] := rfl

end Agenda

namespace Solo

variable {solo : Solo} {e : Nat} {cues : Agenda Cue} {next : BulbState → Play}

lemma cues_after_expire (hclear : cues.cues = []) (errand : Errand) (e : Nat) :
    (cues.after errand.timeout 1 (.expire e)).cues.Perm (errand.deadline e) := by
  unfold Errand.deadline
  cases htimeout : errand.timeout with
  | endless =>
    rw [if_pos rfl]
    exact .of_eq hclear
  | seconds count =>
    rw [if_neg (by simp)]
    have hperm := cues.cues_after_seconds count 1 (.expire e)
    rw [hclear] at hperm
    exact hperm

/-- an errand has gone on from where it waited for nothing, and has so much before it at most -/
structure Ready (solo solo' : Solo) (e : Nat) (cues : Agenda Cue) (bound : Nat) : Prop where
  attended : solo'.errand.Attended e (solo'.await e cues).cues
  arrivals : (solo'.await e cues).cues.countP Cue.isArrival = 0
  supply : solo'.corner.supply = solo.corner.supply
  weight : solo'.errand.weight ≤ bound

lemma Ready.rank_lt {solo' : Solo} {bound : Nat} (h : Ready solo solo' e cues bound)
    (hbound : bound < solo.errand.weight) (rest : List Cue) :
    solo'.rank (solo'.await e cues).cues < solo.rank rest := by
  have hweight := h.weight
  rw [rank, rank, h.supply, h.arrivals]
  omega

/-- an errand that asks waits for its request and its deadline -/
lemma ready_ask (solo : Solo) (e : Nat) (hclear : cues.cues = [])
    (hnext : ∀ state, (next state).IsQuick) (retries : Nat) :
    Ready solo (solo.ask next retries) e cues (3 * solo.errand.retriesLeft retries + 2) := by
  have hweight := weight_ask solo next retries
  have hsupply := congrArg Corner.supply (corner_ask solo next retries)
  by_cases hinstant : solo.errand.timeout.isInstant = true
  · have hask : solo.ask next retries = solo.setStage (.answered next retries none) :=
      if_pos hinstant
    rw [hask] at hweight hsupply ⊢
    have hperm : (cues.soon 2 (.resume e)).cues.Perm [.resume e] := by
      have hsoon := cues.cues_soon 2 (.resume e)
      rwa [hclear] at hsoon
    refine ⟨⟨hnext, .inl hperm⟩, ?_, hsupply, hweight⟩
    show (cues.soon 2 (.resume e)).cues.countP Cue.isArrival = 0
    rw [hperm.countP_eq]
    rfl
  · have hask : solo.ask next retries = solo.setStage (.asking next retries) := if_neg hinstant
    rw [hask] at hweight hsupply ⊢
    have hperm : ((cues.after solo.errand.timeout 1 (.expire e)).soon 0 (.attempt e)).cues.Perm
        (solo.errand.deadline e ++ [.attempt e]) := by
      refine (Agenda.cues_soon _ 0 (Cue.attempt e)).trans ?_
      have hexpire := cues_after_expire hclear solo.errand e
      exact (hexpire.cons (Cue.attempt e)).trans (List.perm_append_singleton _ _).symm
    refine ⟨⟨hnext, [.attempt e], .inr (.inl rfl), hperm⟩, ?_, hsupply, hweight⟩
    show ((cues.after solo.errand.timeout 1 (.expire e)).soon 0 (.attempt e)).cues.countP
      Cue.isArrival = 0
    rw [hperm.countP_eq]
    unfold Errand.deadline
    split <;> rfl

lemma ready_over (solo' : Solo) (e : Nat) (hclear : cues.cues = []) {reply : Reply}
    (hstage : solo'.errand.stage = .over (.ok reply))
    (hsupply : solo'.corner.supply = solo.corner.supply) (bound : Nat) :
    Ready solo solo' e cues bound := by
  refine ⟨?_, ?_, hsupply, ?_⟩
  · simp only [Errand.Attended, await, hstage]
    exact ⟨⟨reply, rfl⟩, hclear⟩
  · simp only [await, hstage, hclear]
    rfl
  · simp only [Errand.weight, hstage]
    exact Nat.zero_le _

lemma ready_follow (solo : Solo) (e : Nat) (hclear : cues.cues = []) {play : Play}
    (hquick : play.IsQuick) (bound : Nat) : Ready solo (solo.follow play) e cues bound := by
  obtain ⟨reply, hstage⟩ := solo.stage_follow hquick
  exact ready_over _ e hclear hstage (supply_follow solo hquick) bound

lemma ready_play (solo : Solo) (e : Nat) (hclear : cues.cues = []) {play : Play}
    (hplain : play.IsPlain) :
    Ready solo (solo.follow play) e cues (3 * solo.errand.retriesLeft 0 + 2) := by
  cases play with
  | ask next => exact ready_ask solo e hclear hplain 0
  | _ => exact ready_follow solo e hclear hplain _

end Solo

/-! ### Turns -/

namespace Solo

/-- an errand goes on, and is in nothing but its stage another -/
def Continues (solo solo' : Solo) : Prop :=
  ∃ stage, solo'.errand = { solo.errand with stage }

variable {solo solo' solo'' : Solo}

lemma Continues.refl (solo : Solo) : solo.Continues solo :=
  ⟨solo.errand.stage, rfl⟩

lemma Continues.of_errand (h : solo'.errand = solo.errand) : solo.Continues solo' :=
  ⟨solo.errand.stage, h⟩

lemma Continues.setStage (h : solo.Continues solo') (stage : Stage) :
    solo.Continues (solo'.setStage stage) := by
  obtain ⟨stage', h⟩ := h
  refine ⟨stage, ?_⟩
  show { solo'.errand with stage } = _
  rw [h]

lemma Continues.ask (h : solo.Continues solo') (next : BulbState → Play) (retries : Nat) :
    solo.Continues (solo'.ask next retries) := by
  unfold Solo.ask
  split
  · exact h.setStage _
  · exact h.setStage _

lemma Continues.follow (h : solo.Continues solo') (play : Play) :
    solo.Continues (solo'.follow play) := by
  induction play generalizing solo' with
  | done reply => exact h.setStage _
  | ask next ih => exact h.ask next 0
  | keep state next ih => exact ih h
  | report message data next ih => exact ih h
  | send request next ih =>
    have hstill : solo.Continues (solo'.request request).1 := by
      obtain ⟨stage, h⟩ := h
      exact ⟨stage, (errand_request solo' request).trans h⟩
    rw [follow_send]
    split
    · exact ih _ hstill
    · exact hstill.setStage _

lemma Continues.arrive (h : solo.Continues solo') (next : BulbState → Play) (retries : Nat)
    (answer : Answer) : solo.Continues (solo'.arrive next retries answer) := by
  obtain ⟨stage, h⟩ := h
  exact Continues.setStage ⟨stage, (errand_settle solo' .read answer).trans h⟩ _

lemma Continues.attempt (h : solo.Continues solo') (next : BulbState → Play) (retries : Nat) :
    solo.Continues (solo'.attempt next retries).1 := by
  obtain ⟨stage, h⟩ := h
  have hsent : solo.Continues (solo'.send .read).1 := ⟨stage, (errand_send solo' .read).trans h⟩
  rw [attempt_eq]
  split
  · exact hsent.arrive next retries _
  · exact hsent

lemma Continues.resume (h : solo.Continues solo') (next : BulbState → Play) (retries : Nat)
    (result : Option (Except Fault Reply)) :
    solo.Continues (solo'.resume next retries result) := by
  unfold Solo.resume
  cases Query.judge solo'.errand.handle solo'.errand.maxRetries retries result with
  | take state => exact h.follow _
  | again retries => exact h.ask next retries
  | give fault =>
    have hnoted : solo.Continues (solo'.note fault) := h
    exact hnoted.setStage _

end Solo

namespace Session.Has

variable {s : Session Bench} {r e : Nat} {solo : Solo} {cues : Agenda Cue} {cue : Cue}

/-- what comes of an errand when one of its cues is performed -/
structure Turned (t : Session Bench) (r e : Nat) (solo : Solo) (cue : Cue) (cues : List Cue)
    (solo' : Solo) (cues' : Agenda Cue) : Prop where
  has : t.Has r e solo' cues'
  attended : solo'.errand.Attended e cues'.cues
  continues : solo.Continues solo'
  nearer : solo'.rank cues'.cues < solo.rank (cue :: cues) ∨
    solo' = solo ∧ cues'.cues = cues ∧ cue ≠ solo.errand.needed e

lemma turn_begin (h : s.Has r e solo cues) {play : Play} (hstage : solo.errand.stage = .fresh play)
    (hplain : play.IsPlain) (hnil : cues.cues = []) :
    ∃ solo' cues', Turned (s.perform (.begin e)) r e solo (.begin e) cues.cues solo' cues' := by
  have hweight : solo.errand.weight = 3 * solo.errand.retriesLeft 0 + 3 := by
    unfold Errand.weight
    rw [hstage]
  have hready := solo.ready_play e hnil hplain
  exact ⟨_, _, h.begin hstage hplain (Agenda.cleared_of_cues hnil), hready.attended,
    (Solo.Continues.refl solo).follow play, .inl (hready.rank_lt (by omega) _)⟩

/-- an errand whose request came to something waits to learn of it -/
lemma attended_answered {errand : Errand} {next : BulbState → Play} {retries : Nat}
    {result : Option (Except Fault Reply)} (hnext : ∀ state, (next state).IsQuick)
    (hcues : cues.cues.Perm (errand.deadline e)) (turns : Nat) :
    { errand with stage := .answered next retries result }.Attended e
      (cues.soon turns (.resume e)).cues := by
  refine ⟨hnext, .inr ?_⟩
  exact (cues.cues_soon turns (.resume e)).trans (hcues.cons _)

lemma deadline_arrivals {rest : List Cue} {errand : Errand} (h : rest.Perm (errand.deadline e)) :
    rest.countP Cue.isArrival = 0 := by
  rw [h.countP_eq]
  unfold Errand.deadline
  split <;> rfl

lemma soon_arrivals (cues : Agenda Cue) (turns : Nat) (e : Nat) :
    (cues.soon turns (.resume e)).cues.countP Cue.isArrival = cues.cues.countP Cue.isArrival := by
  rw [(cues.cues_soon turns (.resume e)).countP_eq]
  exact List.countP_cons_of_neg (by simp [Cue.isArrival])

lemma turn_attempt (h : s.Has r e solo cues) {next : BulbState → Play} {retries : Nat}
    (hstage : solo.errand.stage = .asking next retries) (hnext : ∀ state, (next state).IsQuick)
    (hcues : cues.cues.Perm (solo.errand.deadline e)) :
    ∃ solo' cues', Turned (s.perform (.attempt e)) r e solo (.attempt e) cues.cues solo' cues' := by
  have hhas := h.attempt hstage
  have hcontinues := (Solo.Continues.refl solo).attempt next retries
  obtain ⟨hatOnce, hlasting⟩ := solo.rank_attempt hstage
  have hnone := deadline_arrivals hcues
  have hcount : (Cue.attempt e :: cues.cues).countP Cue.isArrival = 0 := hnone
  cases hsent : (solo.attempt next retries).2 with
  | none =>
    have hrank := hatOnce hsent
    rw [hsent] at hhas
    have hthen : (solo.attempt next retries).1 = (solo.send .read).1.arrive next retries
        (solo.send .read).2.2 := by
      rw [Solo.attempt_eq] at hsent ⊢
      split
      · rfl
      · rename_i duration hwait
        rw [hwait] at hsent
        cases hsent
    refine ⟨_, _, hhas, ?_, hcontinues, .inl ?_⟩
    · obtain ⟨result, herrand⟩ := (solo.send .read).1.errand_arrive next retries
        (solo.send .read).2.2
      rw [hthen, herrand, Solo.errand_send]
      exact attended_answered hnext hcues 1
    · rw [Solo.rank, List.countP_nil] at hrank
      rw [Solo.rank, Solo.rank, hcount, soon_arrivals, hnone]
      rw [Solo.rank, List.countP_nil] at hrank
      exact hrank
  | some sent =>
    obtain ⟨duration, answer⟩ := sent
    obtain ⟨herrand, hsupply⟩ := hlasting (by simp [hsent])
    rw [hsent] at hhas
    have hperm : ∃ sent : List Cue, (sent = [] ∨ ∃ answer, sent = [.arrive e .read answer]) ∧
        (cues.pause duration (.arrive e .read answer)).cues.Perm (solo.errand.deadline e ++ sent) := by
      rcases cues.cues_pause duration (.arrive e .read answer) with hsame | hnew
      · exact ⟨[], .inl rfl, (hsame.trans hcues).trans (.of_eq (List.append_nil _).symm)⟩
      · refine ⟨[.arrive e .read answer], .inr ⟨answer, rfl⟩, ?_⟩
        exact (hnew.trans (hcues.cons _)).trans (List.perm_append_singleton _ _).symm
    obtain ⟨sent, hone, hperm⟩ := hperm
    refine ⟨_, _, hhas, ?_, hcontinues, .inl ?_⟩
    · rw [herrand]
      unfold Errand.Attended
      simp only [hstage]
      exact ⟨hnext, sent, hone.imp id .inr, hperm⟩
    · have hle : (cues.pause duration (.arrive e .read answer)).cues.countP Cue.isArrival ≤ 1 := by
        rw [hperm.countP_eq, List.countP_append, deadline_arrivals (.refl _)]
        rcases hone with rfl | ⟨_, rfl⟩ <;> simp [Cue.isArrival]
      rw [Solo.rank, Solo.rank, hcount, herrand]
      dsimp only
      omega

lemma turn_arrive (h : s.Has r e solo cues) {next : BulbState → Play} {retries : Nat}
    (answer : Answer) (hstage : solo.errand.stage = .asking next retries)
    (hnext : ∀ state, (next state).IsQuick) (hcues : cues.cues.Perm (solo.errand.deadline e)) :
    ∃ solo' cues', Turned (s.perform (.arrive e .read answer)) r e solo (.arrive e .read answer)
      cues.cues solo' cues' := by
  have hweight : solo.errand.weight = 3 * solo.errand.retriesLeft retries + 2 := by
    unfold Errand.weight
    rw [hstage]
  obtain ⟨hsupply, hless⟩ := solo.rank_arrive next retries answer
  refine ⟨_, _, h.arrive hstage answer, ?_, (Solo.Continues.refl solo).arrive next retries _,
    .inl ?_⟩
  · obtain ⟨result, herrand⟩ := solo.errand_arrive next retries answer
    rw [herrand]
    exact attended_answered hnext hcues 1
  · have hcount : (Cue.arrive e .read answer :: cues.cues).countP Cue.isArrival = 1 := by
      rw [List.countP_cons_of_pos (by rfl), deadline_arrivals hcues]
    rw [Solo.rank, Solo.rank, hsupply, soon_arrivals, deadline_arrivals hcues, hcount]
    omega

lemma turn_expire (h : s.Has r e solo cues) {next : BulbState → Play} {retries : Nat}
    (hstage : solo.errand.stage = .asking next retries) (hnext : ∀ state, (next state).IsQuick) :
    ∃ solo' cues', Turned (s.perform (.expire e)) r e solo (.expire e) cues.cues solo' cues' := by
  have hweight : solo.errand.weight = 3 * solo.errand.retriesLeft retries + 2 := by
    unfold Errand.weight
    rw [hstage]
  refine ⟨_, _, h.expire hstage, ?_, (Solo.Continues.refl solo).setStage _, .inl ?_⟩
  · exact ⟨hnext, .inl (cues.cleared.cues_soon 2 (.resume e))⟩
  · have hless : (solo.expire next retries).errand.weight
        ≤ 3 * solo.errand.retriesLeft retries + 1 :=
      Solo.weight_unanswered solo.errand next retries
    have hsupply : (solo.expire next retries).corner.supply = solo.corner.supply := rfl
    rw [Solo.rank, Solo.rank, soon_arrivals, Agenda.cues_cleared, List.countP_nil, hsupply]
    omega

lemma turn_resume (h : s.Has r e solo cues) {next : BulbState → Play} {retries : Nat}
    {result : Option (Except Fault Reply)}
    (hstage : solo.errand.stage = .answered next retries result)
    (hnext : ∀ state, (next state).IsQuick) :
    ∃ solo' cues', Turned (s.perform (.resume e)) r e solo (.resume e) cues.cues solo' cues' := by
  have hready : Solo.Ready solo (solo.resume next retries result) e cues.cleared
      (solo.errand.weight - 1) ∧ 0 < solo.errand.weight := by
    simp only [Errand.weight, hstage, Solo.resume]
    cases Query.judge solo.errand.handle solo.errand.maxRetries retries result with
    | take state => exact ⟨solo.ready_follow e rfl (hnext state) _, Nat.one_pos⟩
    | again retries => exact ⟨solo.ready_ask e rfl hnext retries, Nat.succ_pos _⟩
    | give fault =>
      have hover : (solo.fail fault).errand.stage = .over (.ok .nothing) := rfl
      have hsupply : (solo.fail fault).corner.supply = solo.corner.supply := rfl
      exact ⟨Solo.ready_over _ e Agenda.cues_cleared hover hsupply _, Nat.one_pos⟩
  have hcontinues := (Solo.Continues.refl solo).resume next retries result
  refine ⟨_, _, h.resume hstage hnext, hready.1.attended, hcontinues, .inl ?_⟩
  exact hready.1.rank_lt (Nat.sub_lt hready.2 Nat.one_pos) _

/-- a deadline that comes too late changes nothing -/
lemma perform_late (h : s.Has r e solo cues) {next : BulbState → Play} {retries : Nat}
    {result : Option (Except Fault Reply)}
    (hstage : solo.errand.stage = .answered next retries result) : s.perform (.expire e) = s := by
  obtain ⟨errand, he, hstage', _, _⟩ := h.errand
  rw [hstage] at hstage'
  simp only [Session.perform, Session.overErrand, he, Session.expire, hstage']

/-- with each of its cues an errand comes nearer to its end, or still waits for the one it needs -/
theorem turn (h : s.Has r e solo cues) (ha : solo.errand.Attended e (cue :: cues.cues)) :
    ∃ solo' cues', Turned (s.perform cue) r e solo cue cues.cues solo' cues' := by
  have hdue := ha.due
  generalize hrest : cues.cues = rest at hdue
  cases hdue with
  | begin stage plain =>
    rw [← hrest]
    exact h.turn_begin stage plain hrest
  | attempt stage quick perm =>
    subst hrest
    exact h.turn_attempt stage quick perm
  | arrive answer stage quick perm =>
    subst hrest
    exact h.turn_arrive answer stage quick perm
  | expire stage quick =>
    subst hrest
    exact h.turn_expire stage quick
  | resume stage quick =>
    subst hrest
    exact h.turn_resume stage quick
  | late stage quick =>
    rw [h.perform_late stage]
    refine ⟨solo, cues, h, ?_, .refl solo, .inr ⟨rfl, hrest, ?_⟩⟩
    · unfold Errand.Attended
      simp only [stage]
      exact ⟨quick, .inl (.of_eq hrest)⟩
    · simp [Errand.needed, stage]

end Session.Has

end Lamplighter
