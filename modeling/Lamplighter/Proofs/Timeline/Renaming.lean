import Mathlib.Data.List.Basic
import Lamplighter.Timeline.Agenda

/-!
# Renaming: an agenda whose cues go by other names

* `Agenda.map`          the agenda with each cue renamed; it comes to the same whether cues are set and
                        dropped before they are renamed or after;
* `Agenda.map_next?`    the next cue is the one that is renamed.
-/

namespace Lamplighter.Agenda

variable {α β : Type} (f : α → β) (agenda : Agenda α)

def mapPending (p : Pending α) : Pending β :=
  ⟨p.turns, f p.cue⟩

def mapTimer (t : Timer α) : Timer β :=
  ⟨t.due, mapPending f t.entry⟩

/-- the agenda with each cue renamed -/
def map : Agenda β where
  now := agenda.now
  line := agenda.line.map (mapPending f)
  timers := agenda.timers.map (mapTimer f)

lemma map_soon (turns : Nat) (cue : α) :
    (agenda.soon turns cue).map f = (agenda.map f).soon turns (f cue) := by
  simp [map, soon, mapPending]

lemma map_insert (timers : List (Timer α)) (timer : Timer α) :
    (insert timers timer).map (mapTimer f) = insert (timers.map (mapTimer f)) (mapTimer f timer) := by
  induction timers with
  | nil => rfl
  | cons t rest ih =>
    simp only [insert, List.map_cons]
    show List.map _ (if timer.due < t.due then _ else _) = if timer.due < t.due then _ else _
    split
    · rfl
    · rw [List.map_cons, ih]

lemma map_after (duration : Duration) (turns : Nat) (cue : α) :
    (agenda.after duration turns cue).map f = (agenda.map f).after duration turns (f cue) := by
  cases duration with
  | endless => rfl
  | seconds seconds => simp only [map, after, map_insert, mapTimer, mapPending]

lemma map_pause (duration : Duration) (cue : α) :
    (agenda.pause duration cue).map f = (agenda.map f).pause duration (f cue) := by
  unfold pause
  split
  · exact map_soon f agenda 0 cue
  · exact map_after f agenda duration 1 cue

lemma map_drop {unwanted : α → Bool} {unwanted' : β → Bool}
    (h : ∀ cue, unwanted' (f cue) = unwanted cue) :
    (agenda.drop unwanted).map f = (agenda.map f).drop unwanted' := by
  simp only [map, drop, List.filter_map, Function.comp_def, mapPending, mapTimer, h]

lemma map_takeLine (line : List (Pending α)) : takeLine (line.map (mapPending f))
    = (takeLine line).map fun taken => (f taken.1, taken.2.map (mapPending f)) := by
  fun_induction takeLine line with
  | case1 => simp [takeLine]
  | case2 cue rest => simp [takeLine, mapPending]
  | case3 n cue rest ih =>
    rw [List.map_cons, mapPending, takeLine, ← ih]
    simp [mapPending]

lemma map_joinDue : (agenda.map f).joinDue = agenda.joinDue.map f := by
  simp only [joinDue, map, List.map_append, List.map_map, List.takeWhile_map, List.dropWhile_map]
  rfl

lemma map_advance : (agenda.map f).advance = agenda.advance.map f := by
  unfold advance
  cases htimers : agenda.timers with
  | nil =>
    have hmapped : (agenda.map f).timers = [] := by simp [map, htimers]
    rw [hmapped]
  | cons t rest =>
    have hmapped : (agenda.map f).timers = mapTimer f t :: rest.map (mapTimer f) := by
      simp [map, htimers]
    have hjoined := map_joinDue f { agenda with
      now := if agenda.now < t.due then t.due else agenda.now }
    rw [htimers] at hjoined
    rw [hmapped]
    exact hjoined

/-- the next cue is the one that is renamed -/
theorem map_next? : (agenda.map f).next?
    = agenda.next?.map fun next => (f next.1, next.2.map f) := by
  have htake : ∀ agenda : Agenda α, takeLine (agenda.map f).line = _ :=
    fun agenda => map_takeLine f agenda.line
  unfold next?
  rw [map_advance, htake]
  cases takeLine agenda.line with
  | some taken => rfl
  | none =>
    dsimp only [Option.map_none]
    rw [htake]
    cases takeLine agenda.advance.line with
    | some taken => rfl
    | none => rfl

lemma map_of_clear (h : agenda.line = [] ∧ agenda.timers = []) :
    agenda.map f = { now := agenda.now } := by
  simp [map, h]

lemma map_map {γ : Type} (g : β → γ) : (agenda.map f).map g = agenda.map (g ∘ f) := by
  simp only [map, List.map_map]
  rfl

end Lamplighter.Agenda
