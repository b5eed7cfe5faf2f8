import Lamplighter.Network.Bench
import Lamplighter.Proofs.Run.Succession
import Lamplighter.Server.Front

/-!
# Service: commands that are posted are run one after another

* `Front.compiled?`     the action that a posted command comes to;
* `Server.Happening`    what happens to a front that is told of: a command is posted, or a cue is performed
                        and so much is told by a run and asked of the network;
* `Server.Serves`       what becomes of a front, and what happens to it meanwhile;
* `Front.InTurn`        the runs are those of the commands that compile, and they take turns;
* `Serves.inTurn`       so it is whatever happens;
* `Serves.begins`       and a run that has only to wait for its turn begins after so many steps;
* `serves_in_turn`      what this comes to.
-/

set_option linter.unusedSectionVars false

namespace Lamplighter.Server

open Session (further)

variable {ν : Type} [Network ν]

/-! ### Posts -/

namespace Front

/-- the action that a posted command comes to, if it is one -/
def compiled? {ν : Type} (front : Front ν) (path : String) (headers : List (String × String))
    (body : String) : Option Action :=
  if route path == commandsPath then
    match readBody ((headerOf? headers "content-type").getD "application/json") body with
    | .error _ => none
    | .ok request => (compile (tokenize request.command) front.settings).toOption
  else none

/-- a command that compiles is accepted, and nothing comes of any other post -/
theorem post_front (front : Front ν) (path : String) (headers : List (String × String))
    (body : String) : (front.post path headers body).1
      = ((front.compiled? path headers body).map front.accept).getD front := by
  unfold post compiled? command
  dsimp only
  by_cases hpath : (route path == commandsPath) = true
  · rw [if_pos hpath, if_pos hpath]
    cases readBody ((headerOf? headers "content-type").getD "application/json") body with
    | error fault => rfl
    | ok request =>
      dsimp only
      cases compile (tokenize request.command) front.settings with
      | error error => rfl
      | ok action => rfl
  · rw [if_neg hpath, if_neg hpath]
    split <;> rfl

end Front

/-! ### What happens to a front -/

/-- what is told to the subscribers, or asked of the network -/
inductive Sign where
  | told (event : Event)
  | asked (contact : Contact)

inductive Happening where
  /-- a command was posted, and came to an action or to none -/
  | posted (action : Option Action)
  /-- a cue was performed: the run that has done something, the events that were published, and what
  the network was asked for -/
  | stepped (doer : Option Nat) (events : List Event) (contacts : List Contact)

namespace Happening

def action? : Happening → Option Action
  | .posted action => action
  | .stepped .. => none

def isStep : Happening → Bool
  | .posted _ => false
  | .stepped .. => true

/-- what is told and asked, and which run does so -/
def signs : Happening → List (Option Nat × Sign)
  | .posted _ => []
  | .stepped doer events contacts =>
    (events.map Sign.told ++ contacts.map Sign.asked).map fun sign => (doer, sign)

/-- what a run tells -/
def told (r : Nat) : Happening → List Event
  | .posted _ => []
  | .stepped doer events _ => if doer = some r then events else []

/-- what a run asks of the network -/
def asked (r : Nat) : Happening → List Contact
  | .posted _ => []
  | .stepped doer _ contacts => if doer = some r then contacts else []

end Happening

variable {front later first : Front (Recorded ν)} {log more : List Happening} {r q begun : Nat}

/-- the actions of the commands that compile, in the order in which they were posted -/
def accepted (log : List Happening) : List Action :=
  log.filterMap Happening.action?

def steps (log : List Happening) : Nat :=
  log.countP Happening.isStep

/-- all that is told and asked, and which run does so -/
def signs (log : List Happening) : List (Option Nat × Sign) :=
  log.flatMap Happening.signs

/-- all that a run tells -/
def tales (log : List Happening) (r : Nat) : List Event :=
  log.flatMap (Happening.told r)

/-- all that a run asks of the network -/
def requests (log : List Happening) (r : Nat) : List Contact :=
  log.flatMap (Happening.asked r)

/-- what happens with a step: whoever subscribes, the same is published -/
def Front.happening (front : Front (Recorded ν)) (cue : Cue) (agenda : Agenda Cue) : Happening :=
  let taken : Session (Recorded ν) := { front.session with agenda }
  .stepped (front.session.actor? cue) (taken.published cue)
    ((taken.perform cue).network.contacts.drop taken.network.contacts.length)

/-- what becomes of a front, and what happens to it meanwhile: commands are posted at any time, the
cues of the session come one after another, the runs to come may get another client, and anything may
stir around the runs -/
inductive Serves (front : Front (Recorded ν)) : List Happening → Front (Recorded ν) → Prop
  | refl : Serves front [] front
  | post {log : List Happening} {later : Front (Recorded ν)} (path : String)
    (headers : List (String × String)) (body : String) (before : Serves front log later) :
    Serves front (log ++ [.posted (later.compiled? path headers body)])
      (later.post path headers body).1
  | step {log : List Happening} {later : Front (Recorded ν)} {cue : Cue} {agenda : Agenda Cue}
    (before : Serves front log later) (next : later.session.agenda.next? = some (cue, agenda)) :
    Serves front (log ++ [later.happening cue agenda])
      { later with session := ({ later.session with agenda } : Session (Recorded ν)).perform cue }
  | client {log : List Happening} {later : Front (Recorded ν)} (client : Nat)
    (before : Serves front log later) : Serves front log { later with client }
  | stir {log : List Happening} {later : Front (Recorded ν)} {session : Session (Recorded ν)}
    (before : Serves front log later) (stirs : later.session.Stirs session) :
    Serves front log { later with session }

/-- a front to which nothing has happened yet, over any network and store and with any subscribers -/
def Front.IsFresh (front : Front (Recorded ν)) : Prop :=
  ∃ now inner store hub, front.session = { agenda := { now }, network := { inner }, store, hub }

/-! ### One happening more -/

lemma signs_concat (log : List Happening) (happening : Happening) :
    signs (log ++ [happening]) = signs log ++ happening.signs := by
  simp [signs]

lemma tales_concat (log : List Happening) (happening : Happening) (r : Nat) :
    tales (log ++ [happening]) r = tales log r ++ happening.told r := by
  simp [tales]

lemma requests_concat (log : List Happening) (happening : Happening) (r : Nat) :
    requests (log ++ [happening]) r = requests log r ++ happening.asked r := by
  simp [requests]

lemma tales_stepped (log : List Happening) (doer : Option Nat) (events : List Event)
    (contacts : List Contact) :
    tales (log ++ [.stepped doer events contacts]) = further (tales log) doer events :=
  funext fun r => tales_concat log _ r

lemma tales_posted (log : List Happening) (action : Option Action) :
    tales (log ++ [.posted action]) = tales log :=
  funext fun r => (tales_concat log _ r).trans (List.append_nil _)

/-- what a run asks for is among what is asked -/
lemma mem_signs_of_requests {contact : Contact} (h : contact ∈ requests log r) :
    (some r, .asked contact) ∈ signs log := by
  obtain ⟨happening, hmem, hasked⟩ := List.mem_flatMap.mp h
  refine List.mem_flatMap.mpr ⟨happening, hmem, ?_⟩
  cases happening with
  | posted action => cases hasked
  | stepped doer events contacts =>
    have hasked : contact ∈ if doer = some r then contacts else [] := hasked
    split at hasked
    · rename_i hdoer
      exact List.mem_map.mpr ⟨.asked contact,
        List.mem_append_right _ (List.mem_map_of_mem hasked), by rw [hdoer]⟩
    · cases hasked

/-! ### Runs that take turns -/

/-- so many runs have begun; the runs are those of the commands that compile; what is told and asked
comes from one run after the other, and each asks for the searches that it has made -/
structure Front.InTurn (front : Front (Recorded ν)) (log : List Happening) (begun : Nat) : Prop where
  serial : front.session.Serial begun (tales log)
  actions : front.session.runs.map Run.action = accepted log
  doers : ∃ doers : List Nat, (signs log).map Prod.fst = doers.map some ∧
    doers.Pairwise (· ≤ ·) ∧ ∀ r ∈ doers, r < begun
  searches : ∀ r run, front.session.runs[r]? = some run →
    (requests log r).filter Contact.isSearch = run.core.searches

namespace Front.InTurn

/-- a run that has not begun has asked for nothing -/
lemma requests_eq_nil (h : front.InTurn log begun) (hr : begun ≤ r) : requests log r = [] := by
  refine List.eq_nil_iff_forall_not_mem.mpr fun contact hmem => ?_
  obtain ⟨doers, hdoers, -, hbegun⟩ := h.doers
  have hdoer : some r ∈ doers.map some := by
    rw [← hdoers]
    exact List.mem_map_of_mem (mem_signs_of_requests hmem)
  obtain ⟨q, hq, heq⟩ := List.mem_map.mp hdoer
  obtain rfl := Option.some.inj heq
  exact absurd (hbegun q hq) (by omega)

/-- a command is posted -/
theorem post (h : front.InTurn log begun) (path : String) (headers : List (String × String))
    (body : String) : (front.post path headers body).1.InTurn
      (log ++ [.posted (front.compiled? path headers body)]) begun := by
  have hactions : accepted (log ++ [.posted (front.compiled? path headers body)])
      = accepted log ++ (front.compiled? path headers body).toList := by
    unfold accepted
    rw [List.filterMap_append]
    cases front.compiled? path headers body <;> rfl
  have hdoers : (signs (log ++ [.posted (front.compiled? path headers body)])) = signs log :=
    (signs_concat ..).trans (List.append_nil _)
  have hrequests : ∀ r, requests (log ++ [.posted (front.compiled? path headers body)]) r
      = requests log r := fun r => (requests_concat ..).trans (List.append_nil _)
  rw [post_front]
  cases hcompiled : front.compiled? path headers body with
  | none =>
    rw [hcompiled] at hactions hdoers hrequests
    refine ⟨?_, ?_, ?_, ?_⟩
    · rw [tales_posted]
      exact h.serial
    · rw [hactions]
      exact h.actions.trans (List.append_nil _).symm
    · rw [hdoers]
      exact h.doers
    · intro r run hget
      rw [hrequests]
      exact h.searches r run hget
  | some action =>
    rw [hcompiled] at hactions hdoers hrequests
    refine ⟨?_, ?_, ?_, ?_⟩
    · rw [tales_posted]
      exact h.serial.enqueue action front.settings front.client
    · rw [hactions, ← h.actions]
      exact List.map_append
    · rw [hdoers]
      exact h.doers
    · intro r run hget
      rw [hrequests]
      have hget : (front.session.runs ++
          [Run.ofAction action front.settings front.client .hub])[r]? = some run := hget
      rw [List.getElem?_append] at hget
      split at hget
      · exact h.searches r run hget
      · -- a run that is new has asked for nothing
        rename_i hr
        have hbound : begun ≤ front.session.backdrop.runs.length := h.serial.queued.bound
        have hlength : front.session.backdrop.runs.length = front.session.runs.length :=
          List.length_map ..
        obtain rfl := List.mem_singleton.mp (List.mem_of_getElem? hget)
        rw [h.requests_eq_nil (by omega)]
        rfl

/-- a cue is performed -/
theorem step (h : front.InTurn log begun) {cue : Cue} {agenda : Agenda Cue}
    (hnext : front.session.agenda.next? = some (cue, agenda)) :
    let t := ({ front.session with agenda } : Session (Recorded ν)).perform cue
    ∃ begun', ({ front with session := t } : Front (Recorded ν)).InTurn
        (log ++ [front.happening cue agenda]) begun' ∧
      (begun' = begun + 1 ∨ begun' = begun ∧ (front.session.turn = none →
        begun < front.session.runs.length → t.turn = none ∧ t.wait begun < front.session.wait begun)) := by
  intro t
  obtain ⟨begun', hproceeds⟩ := h.serial.perform hnext
  have hle : begun ≤ begun' := by
    rcases hproceeds.begins with hbegun | ⟨hbegun, -⟩ <;> omega
  have hprefix : front.session.network.contacts <+: t.network.contacts :=
    (Session.touches_perform ({ front.session with agenda } : Session (Recorded ν)) cue).contacts
  have hcontacts := List.prefix_iff_eq_append.mp hprefix
  generalize hasked : t.network.contacts.drop front.session.network.contacts.length = asked at hcontacts
  have hhappening : front.happening cue agenda = .stepped (front.session.actor? cue)
      (({ front.session with agenda } : Session (Recorded ν)).published cue) asked := by
    rw [← hasked]
    rfl
  have hactions := hproceeds.actions
  refine ⟨begun', ⟨?_, ?_, ?_, ?_⟩, hproceeds.begins⟩
  · rw [hhappening, tales_stepped]
    exact hproceeds.serial
  · refine hactions.trans (h.actions.trans ?_)
    rw [hhappening, accepted, accepted, List.filterMap_append]
    exact (List.append_nil _).symm
  · obtain ⟨doers, hdoers, horder, hbegun⟩ := h.doers
    rw [hhappening, signs_concat, List.map_append, hdoers]
    rcases hproceeds.last with ⟨hsame, hnothing⟩ | ⟨r, hwho, hr⟩
    · have hnone : asked = [] := by
        rw [hsame] at hasked
        rw [← hasked]
        exact List.drop_length
      refine ⟨doers, ?_, horder, fun r hmem => Nat.lt_of_lt_of_le (hbegun r hmem) hle⟩
      rw [hnothing, hnone]
      simp [Happening.signs]
    · refine ⟨doers ++ List.replicate
        ((({ front.session with agenda } : Session (Recorded ν)).published cue).length + asked.length) r,
        ?_, ?_, ?_⟩
      · rw [List.map_append, hwho]
        simp [Happening.signs, Function.comp_def, List.map_const']
      · refine List.pairwise_append.mpr ⟨horder, List.pairwise_replicate.mpr (.inr (Nat.le_refl r)), ?_⟩
        intro q hq r' hr'
        obtain rfl := List.eq_of_mem_replicate hr'
        have hlt := hbegun q hq
        omega
      · intro q hmem
        rcases List.mem_append.mp hmem with hold | hnew
        · exact Nat.lt_of_lt_of_le (hbegun q hold) hle
        · obtain rfl := List.eq_of_mem_replicate hnew
          omega
  · intro r run' hget'
    have hlt : r < front.session.runs.length := by
      rw [← List.length_map Run.action, ← hactions, List.length_map]
      exact (List.getElem?_eq_some_iff.mp hget').1
    have hget := List.getElem?_eq_getElem hlt
    have hsearches := hproceeds.searches h.serial hcontacts.symm hget hget'
    rw [hhappening, requests_concat, List.filter_append, h.searches r _ hget, hsearches]
    unfold Happening.asked
    dsimp only
    split <;> rfl

/-- something stirs around the runs -/
theorem stir (h : front.InTurn log begun) {session : Session (Recorded ν)}
    (hstirs : front.session.Stirs session) :
    ({ front with session } : Front (Recorded ν)).InTurn log begun := by
  have hcores : session.runs.map Run.core = front.session.runs.map Run.core := by
    obtain ⟨store, hbackdrop⟩ := hstirs.backdrop
    exact congrArg Backdrop.runs hbackdrop
  refine ⟨h.serial.stirs hstirs, ?_, h.doers, fun r run hget => ?_⟩
  · rw [← h.actions]
    have hactions := congrArg (List.map Run.Core.action) hcores
    rw [List.map_map, List.map_map] at hactions
    exact hactions
  · have hcore := congrArg (·[r]?) hcores
    have hget : session.runs[r]? = some run := hget
    simp only [List.getElem?_map, hget] at hcore
    obtain ⟨old, hold, hsame⟩ := Option.map_eq_some_iff.mp hcore.symm
    rw [← hsame]
    exact h.searches r old hold

lemma fresh (h : front.IsFresh) : front.InTurn [] 0 := by
  obtain ⟨now, inner, store, hub, hsession⟩ := h
  have hruns : front.session.runs = [] := by rw [hsession]
  refine ⟨?_, by rw [hruns]; rfl, ⟨[], rfl, .nil, by simp⟩, fun r run hget => ?_⟩
  · rw [hsession]
    exact .fresh now inner store hub
  · rw [hruns] at hget
    cases hget

end Front.InTurn

namespace Serves

/-- whatever happens, the runs take turns -/
theorem inTurn (h : Serves first log front) (hfirst : first.InTurn more begun) :
    ∃ begun', begun ≤ begun' ∧ front.InTurn (more ++ log) begun' := by
  induction h with
  | refl => exact ⟨begun, Nat.le_refl _, by rwa [List.append_nil]⟩
  | post path headers body _ ih =>
    obtain ⟨begun', hle, hthere⟩ := ih
    rw [← List.append_assoc]
    exact ⟨begun', hle, hthere.post path headers body⟩
  | step _ hnext ih =>
    obtain ⟨begun', hle, hthere⟩ := ih
    obtain ⟨begun'', hstep, hbegun⟩ := hthere.step hnext
    rw [← List.append_assoc]
    exact ⟨begun'', by rcases hbegun with hbegun | ⟨hbegun, -⟩ <;> omega, hstep⟩
  | client client _ ih =>
    obtain ⟨begun', hle, hthere⟩ := ih
    exact ⟨begun', hle, hthere.serial, hthere.actions, hthere.doers, hthere.searches⟩
  | stir _ hstirs ih =>
    obtain ⟨begun', hle, hthere⟩ := ih
    exact ⟨begun', hle, hthere.stir hstirs⟩

lemma trans (h : Serves first log front) (hmore : Serves front more later) :
    Serves first (log ++ more) later := by
  induction hmore with
  | refl => rwa [List.append_nil]
  | post path headers body _ ih =>
    rw [← List.append_assoc]
    exact ih.post path headers body
  | step _ hnext ih =>
    rw [← List.append_assoc]
    exact ih.step hnext
  | client client _ ih => exact ih.client client
  | stir _ hstirs ih => exact ih.stir hstirs

/-- what is driven step by step -/
lemma drive (h : Serves first log front) (isDone : Session (Recorded ν) → Bool) (fuel : Nat) :
    ∃ more, Serves first (log ++ more)
      { front with session := Session.drive isDone fuel front.session } := by
  induction fuel generalizing log front with
  | zero => exact ⟨[], by rwa [List.append_nil]⟩
  | succ fuel ih =>
    unfold Session.drive
    split
    · exact ⟨[], by rwa [List.append_nil]⟩
    · split
      · exact ⟨[], by rwa [List.append_nil]⟩
      · rename_i session hstep
        obtain ⟨⟨cue, agenda⟩, hnext, rfl⟩ := Option.map_eq_some_iff.mp hstep
        obtain ⟨more, hmore⟩ := ih (h.step hnext)
        rw [List.append_assoc] at hmore
        exact ⟨_, hmore⟩

/-- a run that has only to wait for its turn comes nearer to it with each step, whatever else happens -/
theorem begins (h : Serves front more later) (hfront : front.InTurn log begun)
    (hturn : front.session.turn = none) (hmore : begun < front.session.runs.length) :
    ∃ begun', later.InTurn (log ++ more) begun' ∧ (begun < begun' ∨ begun' = begun ∧
      later.session.turn = none ∧ begun < later.session.runs.length ∧
      later.session.wait begun + steps more ≤ front.session.wait begun) := by
  induction h with
  | refl =>
    rw [List.append_nil]
    exact ⟨begun, hfront, .inr ⟨rfl, hturn, hmore, Nat.le_refl _⟩⟩
  | @post more later path headers body _ ih =>
    obtain ⟨begun', hthere, hwaits⟩ := ih
    rw [← List.append_assoc]
    refine ⟨begun', hthere.post path headers body, hwaits.imp id ?_⟩
    rintro ⟨rfl, hfree, hbehind, hnear⟩
    have hsteps : steps (more ++ [.posted (later.compiled? path headers body)]) = steps more :=
      List.countP_append.trans (Nat.add_zero _)
    rw [Front.post_front, hsteps]
    cases later.compiled? path headers body with
    | none => exact ⟨rfl, hfree, hbehind, hnear⟩
    | some action =>
      have hline : Session.KeepsLine later.session.agenda.line
          (later.accept action).session.agenda.line := .soon ..
      have hle := hline.wait_le (hthere.serial.awaits hfree hbehind).1
      refine ⟨rfl, hfree, ?_, ?_⟩
      · show begun' < (later.session.runs ++ [_]).length
        rw [List.length_append]
        exact Nat.lt_add_right _ hbehind
      · exact Nat.le_trans (Nat.add_le_add_right hle _) hnear
  | @step more later cue agenda _ hnext ih =>
    obtain ⟨begun', hthere, hwaits⟩ := ih
    obtain ⟨begun'', hstep, hbegun⟩ := hthere.step hnext
    rw [← List.append_assoc]
    refine ⟨begun'', hstep, ?_⟩
    rcases hbegun with rfl | ⟨rfl, hnearer⟩
    · rcases hwaits with hlt | ⟨rfl, -⟩
      · exact .inl (Nat.lt_succ_of_lt hlt)
      · exact .inl (Nat.lt_succ_self _)
    · refine hwaits.imp id ?_
      rintro ⟨rfl, hfree, hbehind, hnear⟩
      obtain ⟨hstill, hless⟩ := hnearer hfree hbehind
      have hlength : (({ later.session with agenda } : Session (Recorded ν)).perform cue).runs.length
          = later.session.runs.length := by
        have haudiences := (Session.touches_perform
          ({ later.session with agenda } : Session (Recorded ν)) cue).audiences
        have hlengths := congrArg List.length haudiences
        rwa [List.length_map, List.length_map] at hlengths
      have hsteps : steps (more ++ [later.happening cue agenda]) = steps more + 1 :=
        List.countP_append
      refine ⟨rfl, hstill, ?_, ?_⟩
      · rw [hlength]
        exact hbehind
      · rw [hsteps, ← Nat.add_assoc, Nat.add_right_comm]
        exact Nat.le_trans (Nat.add_le_add_right hless _) hnear
  | client client _ ih =>
    obtain ⟨begun', hthere, hwaits⟩ := ih
    exact ⟨begun', ⟨hthere.serial, hthere.actions, hthere.doers, hthere.searches⟩, hwaits⟩
  | @stir more later session _ hstirs ih =>
    obtain ⟨begun', hthere, hwaits⟩ := ih
    refine ⟨begun', hthere.stir hstirs, hwaits.imp id ?_⟩
    rintro ⟨rfl, hfree, hbehind, hnear⟩
    obtain ⟨store, hbackdrop⟩ := hstirs.backdrop
    have hle := hstirs.line.wait_le (hthere.serial.awaits hfree hbehind).1
    refine ⟨rfl, (congrArg Backdrop.turn hbackdrop).trans hfree, ?_, ?_⟩
    · have hruns : session.runs.map Run.core = later.session.runs.map Run.core :=
        congrArg Backdrop.runs hbackdrop
      have hlengths := congrArg List.length hruns
      rw [List.length_map, List.length_map] at hlengths
      show begun' < session.runs.length
      rw [hlengths]
      exact hbehind
    · exact Nat.le_trans (Nat.add_le_add_right hle _) hnear

end Serves

/-- what happens to a front: each command that compiles starts a run of its own, and no other run is
there.  What is told and asked comes from one run after the other, in the order in which the commands
were posted, and when one does anything, the runs before it have ended.  A run that has ended has told
that it started, first and once, and has stopped the search for bulbs that it made.  And if all runs before
one have ended, in whatever way, that one begins after so many steps at the latest, of which there is
one as long as it has not begun, whatever else happens. -/
theorem serves_in_turn (hfresh : first.IsFresh) (hserves : Serves first log front) :
    front.session.runs.map Run.action = accepted log ∧
    (∃ doers : List Nat, (signs log).map Prod.fst = doers.map some ∧ doers.Pairwise (· ≤ ·) ∧
      ∀ r ∈ doers, r < front.session.runs.length ∧ StartsOnce (tales log r) ∧
        ∀ q < r, ∃ run, front.session.runs[q]? = some run ∧ run.isOver = true) ∧
    (∀ r run, front.session.runs[r]? = some run → run.isOver = true → StartsOnce (tales log r) ∧
      ((requests log r).filter Contact.isSearch = [] ∨
        (requests log r).filter Contact.isSearch = [.start run.client, .stop run.client])) ∧
    ∀ r run, front.session.runs[r]? = some run →
      (∀ q < r, ∃ earlier, front.session.runs[q]? = some earlier ∧ earlier.isOver = true) →
      StartsOnce (tales log r) ∨ front.session.step.isSome = true ∧ ∀ more later,
        Serves front more later → front.session.agenda.line.length ≤ steps more →
          StartsOnce (tales (log ++ more) r) := by
  obtain ⟨begun, -, hfront⟩ := hserves.inTurn (Front.InTurn.fresh hfresh)
  rw [List.nil_append] at hfront
  have hserial := hfront.serial
  have hbound : begun ≤ front.session.runs.length := by
    have hbound := hserial.queued.bound
    rwa [show front.session.backdrop.runs.length = _ from List.length_map ..] at hbound
  refine ⟨hfront.actions, ?_, fun r run hget hover => ?_, fun r run hget hbefore => ?_⟩
  · obtain ⟨doers, hdoers, horder, hbegun⟩ := hfront.doers
    refine ⟨doers, hdoers, horder, fun r hmem => ?_⟩
    have hr := hbegun r hmem
    refine ⟨by omega, (hserial.stands r hr).startsOnce, fun q hq => ?_⟩
    obtain ⟨run, hget⟩ := hserial.exists_run (show q < begun by omega)
    exact ⟨run, hget, hserial.isOver (by omega) hget⟩
  · have hr := hserial.lt_of_over hget hover
    rw [hfront.searches r run hget]
    exact ⟨(hserial.stands r hr).startsOnce, hserial.searches_of_over hget hover⟩
  · have hlt := (List.getElem?_eq_some_iff.mp hget).1
    by_cases hr : r < begun
    · exact .inl (hserial.stands r hr).startsOnce
    · -- it is the first one that has not begun, and no run has its turn
      obtain rfl : r = begun := by
        by_contra hne
        obtain ⟨earlier, hthere, hover⟩ := hbefore begun (by omega)
        exact Nat.lt_irrefl _ (hserial.lt_of_over hthere hover)
      have hturn : front.session.turn = none := by
        cases hturn : front.session.turn with
        | none => rfl
        | some q =>
          have hlast := hserial.queued.holder q hturn
          obtain ⟨earlier, hthere, hover⟩ := hbefore q (by omega)
          have hopen := (hserial.open_iff (by omega) hthere).mpr hturn
          rw [Run.isOver, hopen] at hover
          cases hover
      obtain ⟨⟨entry, hmem, hentry⟩, -⟩ := hserial.awaits hturn hlt
      refine .inr ⟨?_, fun more later hmore hlong => ?_⟩
      · unfold Session.step Agenda.next?
        cases htaken : Agenda.takeLine front.session.agenda.line with
        | none =>
          rw [Agenda.takeLine_eq_none_iff.mp htaken] at hmem
          cases hmem
        | some taken => rfl
      · obtain ⟨begun', hlater, hwaits⟩ := hmore.begins hfront hturn hlt
        rcases hwaits with hbegun | ⟨-, -, -, hnear⟩
        · exact (hlater.serial.stands r hbegun).startsOnce
        · have hshort : front.session.wait r < front.session.agenda.line.length :=
            List.findIdx_lt_length_of_exists ⟨entry, hmem, hentry⟩
          omega

/-- a bulb that is announced at once, and a store that cannot be read -/
def porch : Front (Recorded Bench) where
  session :=
    { network := { inner :=
        { bulbs := [{ handle := { serial := "1", label := "Porch", host := "" }, state :=
            { label := "Porch", power := 0, hue := 1, saturation := 2, brightness := 3, kelvin := 4 } }]
          clients := [{}] } }
      store := { outage := some (.reading .notConnected) } }
  settings := {}
  client := 0

def porchBody (command : String) : String :=
  "\x7b\"command\": \"" ++ command ++ "\"\x7d"

def porchPost (front : Front (Recorded Bench)) (command : String) : Front (Recorded Bench) :=
  (front.post Front.commandsPath [] (porchBody command)).1

/-- three commands, the second of which is none, and the first of which comes to a run that fails -/
def porchServed : Front (Recorded Bench) :=
  let asked := porchPost (porchPost porch "restore all") "dance all"
  let begun : Front (Recorded Bench) :=
    { asked with session := Session.drive (fun _ => false) 1 asked.session }
  let posted := porchPost begun "status all"
  { posted with session := Session.drive (fun _ => false) 30 posted.session }

lemma serves_porch : ∃ log, Serves porch log porchServed := by
  have hrestore : Serves porch _ (porchPost porch "restore all") := Serves.refl.post ..
  have hdance : Serves porch _ (porchPost (porchPost porch "restore all") "dance all") :=
    hrestore.post ..
  obtain ⟨_, hbegun⟩ := hdance.drive (fun _ => false) 1
  obtain ⟨_, hserves⟩ :=
    (hbegun.post Front.commandsPath [] (porchBody "status all")).drive (fun _ => false) 30
  exact ⟨_, hserves⟩

set_option maxRecDepth 100000 in
/-- the run after the one that fails is not kept from its turn -/
theorem serves_in_turn_porch : porch.IsFresh ∧ ∃ log, Serves porch log porchServed ∧
    (accepted log).map Action.command = ["restore all", "status all"] ∧
    porchServed.session.runs.map (fun run => run.outcome.map Except.isOk) = [some false, some true] ∧
    StartsOnce (tales log 0) ∧ StartsOnce (tales log 1) ∧
    ∃ doers : List Nat, (signs log).map Prod.fst = doers.map some ∧ doers.Pairwise (· ≤ ·) := by
  have hfresh : porch.IsFresh := ⟨_, _, _, _, rfl⟩
  obtain ⟨log, hserves⟩ := serves_porch
  obtain ⟨hactions, ⟨doers, hdoers, horder, -⟩, hended, -⟩ := serves_in_turn hfresh hserves
  have hruns : porchServed.session.runs.map
      (fun run => (run.action.command, run.outcome.map Except.isOk))
      = [("restore all", some false), ("status all", some true)] := by decide +kernel
  have hcommands := congrArg (List.map Prod.fst) hruns
  have houtcomes := congrArg (List.map Prod.snd) hruns
  rw [List.map_map] at hcommands houtcomes
  have hstarts : ∀ r < 2, StartsOnce (tales log r) := by
    intro r hr
    have hlength : porchServed.session.runs.length = 2 := by simpa using congrArg List.length hruns
    have hget := List.getElem?_eq_getElem (show r < porchServed.session.runs.length by omega)
    refine (hended r _ hget ?_).1
    have hmem := List.mem_map_of_mem (f := Prod.snd ∘ fun run : Run =>
      (run.action.command, run.outcome.map Except.isOk)) (List.mem_of_getElem? hget)
    rw [houtcomes] at hmem
    have hsome : (porchServed.session.runs[r].outcome.map Except.isOk).isSome = true := by
      rcases List.mem_cons.mp hmem with hfails | hmem
      · exact congrArg Option.isSome hfails
      · exact congrArg Option.isSome (List.mem_singleton.mp hmem)
    rwa [Option.isSome_map] at hsome
  refine ⟨hfresh, log, hserves, ?_, houtcomes, hstarts 0 (by decide), hstarts 1 (by decide), doers,
    hdoers, horder⟩
  rw [← hactions, List.map_map]
  exact hcommands

end Lamplighter.Server
