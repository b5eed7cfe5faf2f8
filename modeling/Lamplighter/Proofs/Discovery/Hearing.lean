import Mathlib.Data.List.TakeWhile
import Lamplighter.Discovery.Search
import Lamplighter.Proofs.Number.Nearest
import Lamplighter.Proofs.Run.Inquiry
import Lamplighter.Proofs.Timeline.Upcoming

/-!
# Hearing: which bulbs a client hears of while it listens

The bulbs make themselves known at once or after a while, and an alarm ends the search.  What is due with
the alarm is heard of before it rings, also when it is set behind it.

* `Session.announcement`    a bulb makes itself known to a client at a moment;
* `Session.Splits`          the announcements that come while the window is open, and those that are too late;
* `IsHearing.rings`         a client hears of what is in the line with the alarm, and then the alarm rings;
* `IsHearing.window`        what it hears of until the alarm rings;
* `IsHearing.sleepWithin`   so a session sleeps while its client listens;
* `Session.listen_list`     how a client starts to listen.
-/

namespace Lamplighter

/-! ### Timers and what joins the line -/

namespace Agenda

variable {α : Type} {now : Moment} {timers : List (Timer α)}

/-- time goes on before the next cue is taken, if none is in the line -/
lemma next?_advance (now : Moment) (timers : List (Timer α))
    (hjoined : (advance ⟨now, [], timers⟩).line ≠ []) :
    ∃ taken, next? (advance ⟨now, [], timers⟩) = some taken
      ∧ next? ⟨now, [], timers⟩ = next? (advance ⟨now, [], timers⟩) := by
  have htaken : takeLine (advance ⟨now, [], timers⟩).line ≠ none := hjoined ∘ takeLine_eq_none_iff.mp
  unfold next?
  rw [takeLine]
  dsimp only
  cases hline : takeLine (advance ⟨now, [], timers⟩).line with
  | none => exact absurd hline htaken
  | some taken => exact ⟨_, rfl, rfl⟩

/-- a cue with one turn left lets the line pass -/
lemma next?_turn (now : Moment) (timers : List (Timer α)) (cue : α) (line : List (Pending α)) :
    ∃ taken, next? ⟨now, line ++ [⟨0, cue⟩], timers⟩ = some taken
      ∧ next? ⟨now, ⟨1, cue⟩ :: line, timers⟩ = next? ⟨now, line ++ [⟨0, cue⟩], timers⟩ := by
  have hturn : takeLine (⟨1, cue⟩ :: line) = takeLine (line ++ [⟨0, cue⟩]) := by rw [takeLine]
  unfold next?
  dsimp only
  rw [hturn]
  cases hline : takeLine (line ++ [⟨0, cue⟩]) with
  | none => simp [takeLine_eq_none_iff] at hline
  | some taken => exact ⟨_, rfl, rfl⟩

lemma advance_timers (now : Moment) (timer : Timer α) (timers : List (Timer α)) :
    advance ⟨now, [], timer :: timers⟩ = ⟨max now timer.due,
        ((timer :: timers).takeWhile (isDueAt (max now timer.due))).map (·.entry),
        (timer :: timers).dropWhile (isDueAt (max now timer.due))⟩ := by
  have hnow : (if now < timer.due then timer.due else now) = max now timer.due := by
    split
    · rename_i hless
      exact (max_eq_right hless.le).symm
    · rename_i hle
      exact (max_eq_left (not_lt.mp hle)).symm
  unfold advance
  dsimp only
  rw [hnow]
  rfl

/-- a timed cue is due when time has gone on to it -/
lemma isDueAt_max (now : Moment) (timer : Timer α) : isDueAt (max now timer.due) timer = true := by
  simp [isDueAt]

lemma isDueAt_cases {t : Timer α} (h : isDueAt now t = true) :
    t.due ≤ now ∨ t.due < now.later resolution := by
  simp only [isDueAt, Bool.or_eq_true, decide_eq_true_eq] at h
  exact h.symm

lemma not_isDueAt {t : Timer α} (h : isDueAt now t = false) : now < t.due := by
  simp only [isDueAt, Bool.or_eq_false_iff, decide_eq_false_iff_not, not_le] at h
  exact h.2

end Agenda

lemma takeWhile_append_cons {β : Type} {p : β → Bool} {b : β} (hb : p b = false) (list rest : List β) :
    (list ++ b :: rest).takeWhile p = list.takeWhile p
      ∧ (list ++ b :: rest).dropWhile p = list.dropWhile p ++ b :: rest := by
  induction list with
  | nil => simp [hb]
  | cons a list ih =>
    cases ha : p a with
    | false => simp [ha]
    | true => simp [ha, ih]

/-- what is left of a sorted list behind all that have a property, if those before them have it too -/
lemma eq_false_of_mem_dropWhile {β : Type} {p : β → Bool} {r : β → β → Prop} {list : List β}
    (h : list.Pairwise r) (hp : ∀ a b, r a b → p b = true → p a = true) :
    ∀ b ∈ list.dropWhile p, p b = false := by
  induction list with
  | nil => simp
  | cons a list ih =>
    obtain ⟨hfirst, hrest⟩ := List.pairwise_cons.mp h
    cases ha : p a with
    | true =>
      rw [List.dropWhile_cons_of_pos ha]
      exact ih hrest
    | false =>
      rw [List.dropWhile_cons_of_neg (by simp [ha])]
      intro b hb
      rcases List.mem_cons.mp hb with rfl | hb
      · exact ha
      · exact Bool.eq_false_iff.mpr fun hpb => by simp [hp a b (hfirst b hb) hpb] at ha

namespace Session

open Agenda (isDueAt)

/-- a bulb makes itself known to a client at a moment -/
def announcement (client session : Nat) (a : Handle × Moment) : Timer Cue :=
  ⟨a.2, 0, .signal (.bulb client session a.1)⟩

@[simp] lemma due_announcement (client session : Nat) (a : Handle × Moment) :
    (announcement client session a).due = a.2 := rfl

/-- the announcements that are due at a moment come first -/
lemma announcements_due (client session : Nat) {as : List (Handle × Moment)}
    (h : as.Pairwise fun a b => a.2 ≤ b.2) (now : Moment) :
    ∃ near late, as = near ++ late
      ∧ (∀ a ∈ near, a.2 ≤ now ∨ a.2 < now.later Agenda.resolution) ∧ (∀ a ∈ late, now < a.2)
      ∧ (as.map (announcement client session)).takeWhile (isDueAt now)
        = near.map (announcement client session)
      ∧ (as.map (announcement client session)).dropWhile (isDueAt now)
        = late.map (announcement client session) := by
  refine ⟨as.takeWhile (isDueAt now ∘ announcement client session),
    as.dropWhile (isDueAt now ∘ announcement client session), List.takeWhile_append_dropWhile.symm,
    fun a ha => ?_, fun a ha => ?_, List.takeWhile_map .., List.dropWhile_map ..⟩
  · have hnear : isDueAt now (announcement client session a) = true :=
      List.mem_takeWhile_imp (p := isDueAt now ∘ announcement client session) ha
    exact Agenda.isDueAt_cases hnear
  · have hlate : isDueAt now (announcement client session a) = false :=
      eq_false_of_mem_dropWhile h (fun a b hle hdue => Agenda.isDueAt_of_le
        (show (announcement client session a).due ≤ (announcement client session b).due from hle) hdue)
        a ha
    exact Agenda.not_isDueAt hlate

/-- a timer is set behind the announcements that are due no later -/
lemma announcements_insert (client session : Nat) {as : List (Handle × Moment)}
    (h : as.Pairwise fun a b => a.2 ≤ b.2) (timer : Timer Cue) :
    ∃ before after, as = before ++ after
      ∧ (∀ a ∈ before, a.2 ≤ timer.due) ∧ (∀ a ∈ after, timer.due < a.2)
      ∧ Agenda.insert (as.map (announcement client session)) timer
        = before.map (announcement client session) ++ timer :: after.map (announcement client session) := by
  induction as with
  | nil => exact ⟨[], [], rfl, by simp, by simp, rfl⟩
  | cons a as ih =>
    obtain ⟨hfirst, hrest⟩ := List.pairwise_cons.mp h
    rw [List.map_cons, Agenda.insert]
    split
    · rename_i hless
      refine ⟨[], a :: as, rfl, by simp, List.forall_mem_cons.mpr ⟨hless, fun b hb => ?_⟩, rfl⟩
      exact lt_of_lt_of_le hless (hfirst b hb)
    · rename_i hle
      obtain ⟨before, after, rfl, hbefore, hafter, hinsert⟩ := ih hrest
      exact ⟨a :: before, after, rfl, List.forall_mem_cons.mpr ⟨not_lt.mp hle, hbefore⟩, hafter,
        by rw [hinsert]; rfl⟩

variable {s : Session Bench} {client session i fuel : Nat} {now due : Moment} {agenda agenda' : Agenda Cue}
  {line : List (Pending Cue)} {timers : List (Timer Cue)} {heard : List (Handle × Moment)}

/-! ### A session that hears -/

/-- a client listens, and tells a list -/
structure IsHearing (s : Session Bench) (client session i : Nat) : Prop where
  listener : Assoc.get? s.listeners client = some (.list i)
  listens : (s.network.client client).isListening = true
  starts : (s.network.client client).starts = session

/-- the session with another agenda, when so many bulbs more were heard of -/
def hearing (s : Session Bench) (i : Nat) (agenda : Agenda Cue) (heard : List (Handle × Moment)) :
    Session Bench :=
  { s with agenda, lists := s.lists.modify i (· ++ heard) }

lemma hearing_nil (s : Session Bench) (i : Nat) (agenda : Agenda Cue) :
    ({ s with agenda } : Session Bench) = s.hearing i agenda [] := by
  rw [hearing, show (fun list : List (Handle × Moment) => list ++ []) = id from funext List.append_nil,
    List.modify_id]

/-- the moment when a window ends; it does not end before it begins -/
def closing (now : Moment) (window : Rat) : Moment :=
  max now (now.later window)

/-- some announcements come while a window is open, and others come too late.  The clock does not tell
the end of the window from what follows it within its resolution; a window of no length lets nothing in -/
structure Splits (now : Moment) (window : Rat) (timed late : List (Handle × Moment)) : Prop where
  inside : ∀ a ∈ timed, 0 < window
    ∧ (a.2 ≤ closing now window ∨ a.2 < (closing now window).later Agenda.resolution)
  behind : 0 < window → ∀ a ∈ late, closing now window < a.2

/-- so many steps until the alarm rings -/
def sleepWithin {ν : Type} [Network ν] (s : Session ν) (fuel : Nat) (duration : Duration) : Session ν :=
  drive (fun s => s.isRung) fuel { s with isRung := false, agenda := s.agenda.pause duration .alarm }

lemma step_hearing {cue : Cue} (h : agenda.next? = some (cue, agenda')) :
    (s.hearing i agenda heard).step = some ((s.hearing i agenda' heard).perform cue) := by
  unfold step
  rw [show (s.hearing i agenda heard).agenda.next? = agenda.next? from rfl, h]
  rfl

lemma drive_hearing (hrung : s.isRung = false) {t : Session Bench}
    (hstep : (s.hearing i agenda heard).step = some t) (fuel : Nat) :
    drive (fun s => s.isRung) (fuel + 1) (s.hearing i agenda heard)
      = drive (fun s => s.isRung) fuel t := by
  rw [drive, show (s.hearing i agenda heard).isRung = false from hrung, hstep]
  rfl

/-- agendas with the same next cue are driven alike -/
lemma drive_hearing_congr (hrung : s.isRung = false) (h : agenda.next? = agenda'.next?) (fuel : Nat)
    {taken : Cue × Agenda Cue} (hnext : agenda'.next? = some taken) :
    drive (fun s => s.isRung) (fuel + 1) (s.hearing i agenda heard)
      = drive (fun s => s.isRung) (fuel + 1) (s.hearing i agenda' heard) := by
  rw [drive_hearing hrung (step_hearing (h.trans hnext)), drive_hearing hrung (step_hearing hnext)]

/-- time goes on before the next step, if nothing is in the line -/
lemma drive_advance (hrung : s.isRung = false) (now : Moment) (first : Timer Cue) (rest : List (Timer Cue))
    (heard : List (Handle × Moment)) (fuel : Nat) :
    drive (fun s => s.isRung) (fuel + 1) (s.hearing i ⟨now, [], first :: rest⟩ heard)
      = drive (fun s => s.isRung) (fuel + 1) (s.hearing i ⟨max now first.due,
        ((first :: rest).takeWhile (isDueAt (max now first.due))).map (·.entry),
        (first :: rest).dropWhile (isDueAt (max now first.due))⟩ heard) := by
  rw [← Agenda.advance_timers]
  obtain ⟨taken, hnext, hsame⟩ := Agenda.next?_advance now (first :: rest) (by
    rw [Agenda.advance_timers, List.takeWhile_cons_of_pos (Agenda.isDueAt_max now first)]
    exact List.cons_ne_nil _ _)
  exact drive_hearing_congr hrung hsame fuel hnext

lemma hearAll_list (hlistener : Assoc.get? s.listeners client = some (.list i)) (agenda : Agenda Cue)
    (heard : List (Handle × Moment)) (handles : List Handle) :
    (s.hearing i agenda heard).hearAll client handles
      = s.hearing i agenda (heard ++ handles.map (·, agenda.now)) := by
  induction handles generalizing heard with
  | nil => simp [hearAll]
  | cons handle handles ih =>
    have hfirst : (s.hearing i agenda heard).hear client handle
        = s.hearing i agenda (heard ++ [(handle, agenda.now)]) := by
      unfold hear
      rw [show (s.hearing i agenda heard).listeners = s.listeners from rfl, hlistener]
      simp only [hearing, List.modify_modify_eq]
      congr 2
      funext list
      exact List.append_assoc ..
    have hrest := ih (heard ++ [(handle, agenda.now)])
    unfold hearAll at hrest ⊢
    rw [List.foldl_cons, hfirst, hrest, List.append_assoc]
    rfl

namespace IsHearing

lemma perform (h : s.IsHearing client session i) (agenda : Agenda Cue)
    (heard : List (Handle × Moment)) (handle : Handle) :
    (s.hearing i agenda heard).perform (.signal (.bulb client session handle))
      = s.hearing i agenda (heard ++ [(handle, agenda.now)]) := by
  have hsignal : Network.signal (s.hearing i agenda heard).network (.bulb client session handle)
      = (s.network, { found := [handle], later := [] }) := by
    show Bench.signal s.network _ = _
    simp [Bench.signal, h.listens, h.starts]
  have hheard := hearAll_list h.listener agenda heard [handle]
  unfold Session.perform
  dsimp only
  rw [hsignal]
  exact hheard

/-- what is in the line is heard of, one after the other -/
lemma hears_line (h : s.IsHearing client session i) (hrung : s.isRung = false)
    (as : List (Handle × Moment)) (heard : List (Handle × Moment)) :
    drive (fun s => s.isRung) (as.length + fuel) (s.hearing i
        ⟨now, as.map (fun a => (announcement client session a).entry) ++ line, timers⟩ heard)
      = drive (fun s => s.isRung) fuel (s.hearing i ⟨now, line, timers⟩
        (heard ++ as.map fun a => (a.1, now))) := by
  induction as generalizing heard with
  | nil => simp
  | cons a as ih =>
    have hnext : Agenda.next? ⟨now, (a :: as).map (fun a => (announcement client session a).entry)
        ++ line, timers⟩ = some (.signal (.bulb client session a.1),
          ⟨now, as.map (fun a => (announcement client session a).entry) ++ line, timers⟩) :=
      Agenda.next?_ready
    rw [List.length_cons, Nat.succ_add]
    refine (drive_hearing hrung (step_hearing hnext) _).trans ?_
    rw [h.perform, ih, List.append_assoc]
    rfl

/-- what is in the line behind the alarm is heard of before it rings -/
lemma rings (h : s.IsHearing client session i) (hrung : s.isRung = false)
    (as : List (Handle × Moment)) (heard : List (Handle × Moment)) :
    drive (fun s => s.isRung) (as.length + 1 + fuel) (s.hearing i ⟨now, ⟨1, .alarm⟩
        :: as.map (fun a => (announcement client session a).entry), timers⟩ heard)
      = { s.hearing i ⟨now, [], timers⟩ (heard ++ as.map fun a => (a.1, now)) with isRung := true } := by
  obtain ⟨taken, hnext, hturn⟩ := Agenda.next?_turn now timers .alarm
    (as.map fun a => (announcement client session a).entry)
  have hlast : Agenda.next? ⟨now, [⟨0, .alarm⟩], timers⟩ = some (.alarm, ⟨now, [], timers⟩) :=
    Agenda.next?_ready
  rw [show as.length + 1 + fuel = as.length + fuel + 1 by omega, drive_hearing_congr hrung hturn _ hnext,
    Nat.add_assoc, h.hears_line hrung]
  refine (drive_hearing hrung (step_hearing hlast) fuel).trans ?_
  cases fuel with
  | zero => rfl
  | succ fuel => rfl

/-- what a client hears of until the alarm rings -/
theorem window (h : s.IsHearing client session i) (hrung : s.isRung = false)
    {before after : List (Handle × Moment)}
    (hbefore : before.Pairwise fun a b => a.2 ≤ b.2) (hbefore' : ∀ a ∈ before, a.2 ≤ due)
    (hafter : after.Pairwise fun a b => a.2 ≤ b.2) (hafter' : ∀ a ∈ after, due < a.2)
    (now : Moment) (heard : List (Handle × Moment)) :
    ∃ near late last told, after = near ++ late ∧ now ≤ last ∧ last ≤ max now due
      ∧ (∀ a ∈ near, a.2 ≤ last ∨ a.2 < last.later Agenda.resolution)
      ∧ (∀ a ∈ late, last < a.2) ∧ told.map (·.1) = (before ++ near).map (·.1)
      ∧ ∀ fuel ≥ (before ++ near).length + 1, drive (fun s => s.isRung) fuel (s.hearing i
          ⟨now, [], before.map (announcement client session) ++ ⟨due, 1, .alarm⟩
            :: after.map (announcement client session)⟩ heard)
        = { s.hearing i ⟨last, [], late.map (announcement client session)⟩ (heard ++ told) with
            isRung := true } := by
  induction hlength : before.length using Nat.strong_induction_on generalizing before now heard with
  | _ n ih =>
    have hfirst : ∃ first rest, before.map (announcement client session)
        ++ (⟨due, 1, .alarm⟩ : Timer Cue) :: after.map (announcement client session) = first :: rest
        ∧ first.due ≤ due := by
      cases before with
      | nil => exact ⟨_, _, rfl, le_refl _⟩
      | cons a before => exact ⟨_, _, rfl, hbefore' a (List.mem_cons_self ..)⟩
    obtain ⟨first, rest, htimers, hfirst⟩ := hfirst
    have hadvance := fun fuel => drive_advance (i := i) hrung now first rest heard fuel
    rw [← htimers] at hadvance
    have hjoin := Agenda.isDueAt_max now first
    revert hadvance hjoin
    generalize hlast : max now first.due = last
    intro hadvance hjoin
    have hnow : now ≤ last := hlast ▸ le_max_left ..
    have hdue : last ≤ max now due := hlast ▸ max_le_max (le_refl _) hfirst
    cases halarm : isDueAt last (⟨due, 1, .alarm⟩ : Timer Cue) with
    | true =>
      -- all that is set before the alarm joins the line with it
      have hall : ∀ t ∈ before.map (announcement client session), isDueAt last t = true := by
        intro t ht
        obtain ⟨a, ha, rfl⟩ := List.mem_map.mp ht
        have hle : (announcement client session a).due ≤ (⟨due, 1, .alarm⟩ : Timer Cue).due :=
          hbefore' a ha
        exact Agenda.isDueAt_of_le hle halarm
      obtain ⟨near, late, rfl, hnear, hlate, htaken, hleft⟩ :=
        announcements_due client session hafter last
      refine ⟨near, late, last, (before ++ near).map fun a => (a.1, last), rfl, hnow, hdue, hnear, hlate,
        List.map_map .., fun fuel hfuel => ?_⟩
      obtain ⟨extra, rfl⟩ := Nat.exists_eq_add_of_le hfuel
      rw [Nat.add_right_comm, hadvance, List.takeWhile_append_of_pos hall, List.dropWhile_append_of_pos hall,
        List.takeWhile_cons_of_pos halarm, List.dropWhile_cons_of_pos halarm, htaken, hleft,
        List.map_append, List.map_cons, List.map_map, List.map_map]
      have hcount : (before ++ near).length + extra + 1
          = before.length + (near.length + 1 + extra) := by
        rw [List.length_append]
        omega
      rw [hcount]
      refine (h.hears_line hrung before heard).trans ((h.rings hrung near _).trans ?_)
      rw [List.append_assoc, ← List.map_append]
    | false =>
      -- the alarm is set for later, and so is what is set behind it
      obtain ⟨htaken, hleft⟩ := takeWhile_append_cons halarm (before.map (announcement client session))
        (after.map (announcement client session))
      obtain ⟨soon, before, rfl, -, -, hsoon, hbehind⟩ := announcements_due client session hbefore last
      rw [hsoon] at htaken
      rw [hbehind] at hleft
      have hsome : soon ≠ [] := by
        rintro rfl
        rw [htimers, List.takeWhile_cons_of_pos hjoin] at htaken
        cases htaken
      obtain ⟨near, late, last', told, hafter, hlast', hdue', hnear, hlate, htold, hdrive⟩ :=
        ih before.length (by
          rw [← hlength, List.length_append]
          exact Nat.lt_add_of_pos_left (List.length_pos_iff.mpr hsome))
          (hbefore.sublist (List.sublist_append_right ..))
          (fun a ha => hbefore' a (List.mem_append_right _ ha)) last
          (heard ++ soon.map fun a => (a.1, last)) rfl
      refine ⟨near, late, last', soon.map (fun a => (a.1, last)) ++ told, hafter, hnow.trans hlast',
        hdue'.trans (max_le hdue (le_max_right ..)), hnear, hlate, ?_, fun fuel hfuel => ?_⟩
      · simp [htold, Function.comp_def]
      · obtain ⟨extra, rfl⟩ := Nat.exists_eq_add_of_le hfuel
        have hsoon' : (soon.map (announcement client session)).map (·.entry)
            = soon.map (fun a => (announcement client session a).entry) ++ [] := by
          rw [List.map_map, List.append_nil]
          rfl
        have hcount : (soon ++ before ++ near).length + extra + 1
            = soon.length + ((before ++ near).length + 1 + extra) := by
          simp only [List.length_append]
          omega
        rw [Nat.add_right_comm, hadvance, htaken, hleft, hsoon', hcount]
        refine (h.hears_line hrung soon heard).trans ?_
        rw [hdrive _ (Nat.le_add_right ..), List.append_assoc]

/-- what a client hears of while the session sleeps, and what comes too late -/
theorem sleepWithin (h : s.IsHearing client session i) {as : List (Handle × Moment)}
    (hagenda : s.agenda = { now, timers := as.map (announcement client session) })
    (hsorted : as.Pairwise fun a b => a.2 ≤ b.2) (hnow : 0 ≤ now) (window : Rat) :
    ∃ timed late last told, as = timed ++ late ∧ Splits now window timed late
      ∧ now ≤ last ∧ last ≤ closing now window ∧ told.map (·.1) = timed.map (·.1)
      ∧ ∀ fuel ≥ as.length + 1, s.sleepWithin fuel (.seconds window)
        = { s.hearing i { now := last, timers := late.map (announcement client session) } told with
            isRung := true } := by
  have hquiet : ({ s with isRung := false } : Session Bench).IsHearing client session i :=
    ⟨h.listener, h.listens, h.starts⟩
  have hstart := fun agenda : Agenda Cue => hearing_nil { s with isRung := false } i agenda
  unfold Session.sleepWithin
  rw [hagenda]
  by_cases hwindow : window ≤ 0
  · refine ⟨[], as, now, [], rfl, ⟨by simp, fun hpositive => absurd hwindow (not_le.mpr hpositive)⟩,
      le_refl _, le_max_left .., rfl, fun fuel hfuel => ?_⟩
    have hpause : Agenda.pause { now, timers := as.map (announcement client session) } (.seconds window)
        .alarm = ⟨now, [⟨0, .alarm⟩], as.map (announcement client session)⟩ :=
      if_pos (decide_eq_true hwindow)
    have hnext : Agenda.next? ⟨now, [⟨0, .alarm⟩], as.map (announcement client session)⟩
        = some (.alarm, ⟨now, [], as.map (announcement client session)⟩) := Agenda.next?_ready
    obtain ⟨fuel, rfl⟩ := Nat.exists_eq_add_of_le' hfuel
    rw [hpause, hstart, ← Nat.add_assoc, drive_hearing rfl (step_hearing hnext)]
    cases fuel + as.length <;> rfl
  · have hwindow := not_le.mp hwindow
    generalize hend : now.later window = due
    have hpause : Agenda.pause { now, timers := as.map (announcement client session) } (.seconds window)
        .alarm = ⟨now, [], Agenda.insert (as.map (announcement client session)) ⟨due, 1, .alarm⟩⟩ := by
      rw [Agenda.pause, if_neg (by simpa [Duration.isInstant] using hwindow), ← hend]
      rfl
    obtain ⟨before, after, rfl, hbefore, hafter, hinsert⟩ :=
      announcements_insert client session hsorted ⟨due, 1, .alarm⟩
    obtain ⟨hsorted, hsorted', -⟩ := List.pairwise_append.mp hsorted
    obtain ⟨near, late, last, told, rfl, hlast, hdue, hnear, hlate, htold, hdrive⟩ :=
      hquiet.window rfl hsorted hbefore hsorted' hafter now []
    refine ⟨before ++ near, late, last, told, (List.append_assoc ..).symm, ⟨?_, ?_⟩, hlast, ?_, htold,
      ?_⟩
    · refine fun a ha => ⟨hwindow, ?_⟩
      rw [closing, hend]
      rcases List.mem_append.mp ha with ha | ha
      · exact .inl ((hbefore a ha).trans (le_max_right ..))
      · refine (hnear a ha).imp hdue.trans' fun hless => lt_of_lt_of_le hless ?_
        exact Binary64.nearestRat_le (add_nonneg (hnow.trans hlast) (by decide))
          (add_le_add_left hdue Agenda.resolution)
    · intro _ a ha
      rw [closing, hend]
      exact max_lt (lt_of_le_of_lt hlast (hlate a ha)) (hafter a (List.mem_append_right _ ha))
    · rw [closing, hend]
      exact hdue
    · intro fuel hfuel
      rw [hpause, hinsert, hstart, hdrive fuel (by simp only [List.length_append] at hfuel ⊢; omega)]
      rfl

end IsHearing

/-! ### A client starts to listen -/

end Session

namespace Bench

/-- the bulbs that a client hears of at once when it starts to listen -/
def atOnce (bench : Bench) (client : Nat) : List Handle :=
  ((bench.announcements client).filter fun a => a.2 == 0).map (·.1)

/-- the bulbs that make themselves known later, with their moments, in the order in which they are set -/
def later (bench : Bench) (client : Nat) (now : Moment) : List (Handle × Moment) :=
  ((bench.announcements client).filter fun a => a.2 != 0).map fun a => (a.1, now.later a.2)

end Bench

namespace Session

/-- announcements in the order of their moments; those of one moment stay in their order -/
def inTime (as : List (Handle × Moment)) : List (Handle × Moment) :=
  as.insertionSort fun a b => a.2 ≤ b.2

lemma insert_announcement (client session : Nat) (as : List (Handle × Moment)) (a : Handle × Moment) :
    Agenda.insert ((inTime as).map (announcement client session)) (announcement client session a)
      = (inTime (as ++ [a])).map (announcement client session) := by
  rw [inTime, inTime, Agenda.insertionSort_concat (fun a : Handle × Moment => a.2)]
  generalize (as.insertionSort fun a b => a.2 ≤ b.2) = as
  induction as with
  | nil => rfl
  | cons b as ih =>
    rw [List.map_cons, Agenda.insert, Agenda.slot, due_announcement, due_announcement]
    by_cases hle : b.2 ≤ a.2
    · rw [if_neg (not_lt.mpr hle), if_pos hle, ih]
      rfl
    · rw [if_pos (not_le.mp hle), if_neg hle]
      rfl

/-- announcements are set one after the other -/
lemma expect_announcements (s : Session Bench) (client session i : Nat) (heard : List (Handle × Moment))
    (now : Moment) (times : List (Handle × Rat)) (as : List (Handle × Moment)) :
    (times.map fun a => (Wait.lasting (.seconds a.2), Signal.bulb client session a.1)).foldl expect
        (s.hearing i { now, timers := (inTime as).map (announcement client session) } heard)
      = s.hearing i ⟨now, [], (inTime (as ++ times.map fun a => (a.1, now.later a.2))).map
          (announcement client session)⟩ heard := by
  induction times generalizing as with
  | nil => simp
  | cons a times ih =>
    have hset := insert_announcement client session as (a.1, now.later a.2)
    have hfirst : (s.hearing i { now, timers := (inTime as).map (announcement client session) }
        heard).expect (.lasting (.seconds a.2), .bulb client session a.1)
        = s.hearing i ⟨now, [], (inTime (as ++ [(a.1, now.later a.2)])).map
          (announcement client session)⟩ heard := by
      rw [← hset]
      rfl
    rw [List.map_cons, List.foldl_cons, hfirst, ih, List.map_cons, List.append_assoc]
    rfl

/-- a client starts to listen: it hears of some bulbs at once, and others are expected -/
theorem listen_list {s : Session Bench} {client i : Nat} {now : Moment} {asker : BenchClient}
    {expected : List (Handle × Moment)} (hclient : s.network.clients[client]? = some asker)
    (hworks : asker.isBroken = false) (hagenda : s.agenda
      = { now, timers := expected.map (announcement client (asker.starts + 1)) })
    (hsorted : expected.Pairwise fun a b => a.2 ≤ b.2) (hlists : s.lists[i]? = some []) :
    ∃ opened, s.listen client (.list i) = (opened, none)
      ∧ opened.IsHearing client (asker.starts + 1) i
      ∧ opened.agenda = ⟨now, [], (inTime (expected ++ s.network.later client now)).map
          (announcement client (asker.starts + 1))⟩
      ∧ opened.lists[i]? = some ((s.network.atOnce client).map (·, now))
      ∧ opened.errands = s.errands ∧ opened.network.bulbs = s.network.bulbs
      ∧ opened.network.clients.length = s.network.clients.length := by
  have hasker : s.network.client client = asker := by
    rw [Bench.client, hclient]
    rfl
  generalize hsession : asker.starts + 1 = session at hagenda ⊢
  generalize hnetwork : s.network.modifyClient client (fun c =>
    { c with starts := session, isListening := true }) = network
  have hstart : Network.start s.network client
      = (network, .ok { found := s.network.atOnce client
                        later := ((s.network.announcements client).filter fun a => a.2 != 0).map fun a =>
                          (.lasting (.seconds a.2), .bulb client session a.1) }) := by
    show Bench.start s.network client = _
    unfold Bench.start
    rw [hasker, hworks, hsession, ← hnetwork]
    rfl
  generalize hlistening : ({ s with network, listeners := Assoc.put s.listeners client (.list i) } :
    Session Bench) = listening
  have hlistener : Assoc.get? listening.listeners client = some (.list i) := by
    rw [← hlistening]
    exact Assoc.get?_put_self ..
  have htimers : inTime expected = expected := List.Pairwise.insertionSort_eq hsorted
  have hset := expect_announcements listening client session i
    ((s.network.atOnce client).map (·, now)) now
    ((s.network.announcements client).filter fun a => a.2 != 0) expected
  have hheard := hearAll_list hlistener ⟨now, [], expected.map (announcement client session)⟩ []
    (s.network.atOnce client)
  have hopened : s.listen client (.list i) = (listening.hearing i ⟨now, [],
      (inTime (expected ++ s.network.later client now)).map (announcement client session)⟩
      ((s.network.atOnce client).map (·, now)), none) := by
    have hagenda' : ({ listening with agenda := ⟨now, [],
        expected.map (announcement client session)⟩ } : Session Bench) = listening := by
      rw [← hagenda, ← hlistening]
    rw [htimers] at hset
    rw [← hearing_nil, hagenda', List.nil_append] at hheard
    unfold listen
    rw [hstart]
    dsimp only
    rw [hlistening]
    unfold sight
    rw [hheard, hset]
    rfl
  have hnoted : (network.client client).isListening = true ∧ (network.client client).starts = session := by
    rw [← hnetwork, Bench.client, Bench.modifyClient, List.getElem?_modify, hclient]
    simp
  refine ⟨_, hopened, ⟨hlistener, ?_, ?_⟩, rfl, ?_, ?_, ?_, ?_⟩
  · rw [← hlistening]
    exact hnoted.1
  · rw [← hlistening]
    exact hnoted.2
  · rw [hearing, ← hlistening, List.getElem?_modify_eq, hlists]
    rfl
  · rw [← hlistening]
    rfl
  · rw [← hlistening, ← hnetwork]
    rfl
  · rw [← hlistening, ← hnetwork]
    exact List.length_modify ..

end Session

end Lamplighter
