import Lamplighter.Timeline.Moment

/-!
# The agenda: what happens when

Cues that can be taken at once wait in a line.  A cue may let some turns pass: it goes back to the
end of the line that many times before it is taken.  A timed cue joins the line at its moment.  Time
stands still while the line is not empty and then goes on to the next timed cue; timed cues of one
moment join in the order in which they were set.

`next?` takes the next cue.  `drop` takes cues off the agenda, wherever they are.
-/

namespace Lamplighter

/-- a cue in the line, with the turns that it lets pass -/
structure Pending (α : Type) where
  turns : Nat
  cue : α
  deriving Inhabited

/-- a cue with its moment, and the turns that it lets pass from then on -/
structure Timer (α : Type) where
  due : Moment
  entry : Pending α
  deriving Inhabited

structure Agenda (α : Type) where
  now : Moment := 0
  line : List (Pending α) := []
  timers : List (Timer α) := []
  deriving Inhabited

namespace Agenda

variable {α : Type}

def isEmpty (agenda : Agenda α) : Bool :=
  agenda.line.isEmpty && agenda.timers.isEmpty

/-- nothing can be taken before time goes on -/
def isIdle (agenda : Agenda α) : Bool :=
  agenda.line.isEmpty

/-! ### Setting cues -/

/-- a cue for now, behind the line, with turns to let pass -/
def soon (agenda : Agenda α) (turns : Nat) (cue : α) : Agenda α :=
  { agenda with line := agenda.line ++ [⟨turns, cue⟩] }

/-- a timer behind all that are due no later -/
def insert (timers : List (Timer α)) (timer : Timer α) : List (Timer α) :=
  match timers with
  | [] => [timer]
  | t :: rest => if timer.due < t.due then timer :: t :: rest else t :: insert rest timer

/-- a cue for a moment that is so far away -/
def after (agenda : Agenda α) (duration : Duration) (turns : Nat) (cue : α) : Agenda α :=
  match duration with
  | .endless => agenda
  | .seconds seconds =>
    { agenda with timers := insert agenda.timers ⟨agenda.now.later seconds, turns, cue⟩ }

/-- a cue behind a pause; a pause of no length is a turn in the line -/
def pause (agenda : Agenda α) (duration : Duration) (cue : α) : Agenda α :=
  if duration.isInstant then agenda.soon 0 cue else agenda.after duration 1 cue

def drop (agenda : Agenda α) (unwanted : α → Bool) : Agenda α :=
  { agenda with
    line := agenda.line.filter fun p => !unwanted p.cue
    timers := agenda.timers.filter fun t => !unwanted t.entry.cue }

/-! ### Taking cues -/

/-- the turns that a line lets pass, one more for each cue -/
def weight : List (Pending α) → Nat
  | [] => 0
  | p :: rest => p.turns + 1 + weight rest

theorem weight_append (l k : List (Pending α)) : weight (l ++ k) = weight l + weight k := by
  induction l with
  | nil => simp [weight]
  | cons p rest ih =>
    simp only [List.cons_append, weight, ih]
    omega

/-- the first cue that has no turns left to let pass, and the line behind it -/
def takeLine : List (Pending α) → Option (α × List (Pending α))
  | [] => none
  | ⟨0, cue⟩ :: rest => some (cue, rest)
  | ⟨n + 1, cue⟩ :: rest => takeLine (rest ++ [⟨n, cue⟩])
termination_by line => weight line
decreasing_by
  simp only [weight_append, weight]
  omega

/-- how near two moments are that count as one -/
def resolution : Rat := mkRat 1 1000000000

/-- timed cues of the moment join the line -/
def joinDue (agenda : Agenda α) : Agenda α :=
  let isDue := fun t : Timer α => t.due < agenda.now.later resolution || t.due ≤ agenda.now
  { agenda with
    line := agenda.line ++ (agenda.timers.takeWhile isDue).map (·.entry)
    timers := agenda.timers.dropWhile isDue }

/-- time goes on to the next timed cue -/
def advance (agenda : Agenda α) : Agenda α :=
  match agenda.timers with
  | [] => agenda
  | t :: _ => joinDue { agenda with now := if agenda.now < t.due then t.due else agenda.now }

/-- take the next cue; nothing is left if there is none -/
def next? (agenda : Agenda α) : Option (α × Agenda α) :=
  match takeLine agenda.line with
  | some (cue, line) => some (cue, { agenda with line })
  | none =>
    let later := agenda.advance
    match takeLine later.line with
    | some (cue, line) => some (cue, { later with line })
    | none => none

theorem takeLine_eq_none_iff {line : List (Pending α)} : takeLine line = none ↔ line = [] := by
  fun_induction takeLine line <;> simp_all

end Agenda

end Lamplighter
