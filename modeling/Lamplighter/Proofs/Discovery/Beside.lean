import Lamplighter.Proofs.Run.Prompt
import Lamplighter.Proofs.Run.Timely

/-!
# Beside: what an errand leaves alone that no run has dispatched

* `Agenda.only_soon`, `only_after`, `only_drop`   what becomes of some of the cues when one is set, or when
                     they are dropped;
* `Session.Minds`    a part of a step changes one errand, the cues that it waits for, and its bulb, and
                     nothing else;
* `Minds.perform`    performing a cue of such an errand does that.
-/

set_option linter.unusedSectionVars false

namespace Lamplighter

/-! ### Some cues of an agenda -/

namespace Cue

lemma isAwaitedBy_attempt (e : Nat) : (Cue.attempt e).isAwaitedBy e = true := beq_self_eq_true e

lemma isAwaitedBy_arrive (e : Nat) (request : Request) (answer : Answer) :
    (Cue.arrive e request answer).isAwaitedBy e = true := beq_self_eq_true e

lemma isAwaitedBy_expire (e : Nat) : (Cue.expire e).isAwaitedBy e = true := beq_self_eq_true e

lemma isAwaitedBy_resume (e : Nat) : (Cue.resume e).isAwaitedBy e = true := beq_self_eq_true e

end Cue

namespace Agenda

variable {α : Type} {agenda : Agenda α} {cue : α} {p : α → Bool}

lemma only_soon (hcue : p cue = true) (turns : Nat) :
    (agenda.soon turns cue).only p = (agenda.only p).soon turns cue :=
  drop_soon_kept (by rw [hcue]; rfl) turns

lemma only_after (h : agenda.IsOrdered) (hcue : p cue = true) (duration : Duration) (turns : Nat) :
    (agenda.after duration turns cue).only p = (agenda.only p).after duration turns cue :=
  drop_after_kept h (by rw [hcue]; rfl) duration turns

lemma only_pause (h : agenda.IsOrdered) (hcue : p cue = true) (duration : Duration) :
    (agenda.pause duration cue).only p = (agenda.only p).pause duration cue := by
  unfold pause
  split
  · exact only_soon hcue 0
  · exact only_after h hcue duration 1

/-- nothing is left of the cues that are dropped -/
lemma only_drop (agenda : Agenda α) (p : α → Bool) : (agenda.drop p).only p = { now := agenda.now } := by
  simp [only, drop, List.filter_filter]

/-- what is seen of some cues, if others are dropped first -/
lemma only_drop_of_disjoint (agenda : Agenda α) {q : α → Bool}
    (h : ∀ cue, q cue = true → p cue = false) : (agenda.drop p).only q = agenda.only q :=
  drop_drop p fun cue hcue => by
    cases hq : q cue with
    | false => rfl
    | true => rw [h cue hq] at hcue; cases hcue

end Agenda

namespace Session

variable {s t u : Session Bench} {e : Nat} {x : String} {errand : Errand} {cue : Cue}

/-- an errand for a bulb changes itself, its cues and its bulb, and nothing else -/
structure Minds (e : Nat) (x : String) (s t : Session Bench) : Prop where
  ordered : s.agenda.IsOrdered → t.agenda.IsOrdered
  others : t.agenda.drop (·.isAwaitedBy e) = s.agenda.drop (·.isAwaitedBy e)
  errands : ∀ i, i ≠ e → t.errands[i]? = s.errands[i]?
  bulbs : ∀ y, y ≠ x → t.network.find? y = s.network.find? y
  clients : t.network.clients.length = s.network.clients.length
  listening : ∀ client, (t.network.client client).isListening = (s.network.client client).isListening

namespace Minds

theorem refl (s : Session Bench) : Minds e x s s :=
  ⟨id, rfl, fun _ _ => rfl, fun _ _ => rfl, rfl, fun _ => rfl⟩

theorem trans (h : Minds e x s t) (h' : Minds e x t u) : Minds e x s u where
  ordered := h'.ordered ∘ h.ordered
  others := h'.others.trans h.others
  errands i hi := (h'.errands i hi).trans (h.errands i hi)
  bulbs y hy := (h'.bulbs y hy).trans (h.bulbs y hy)
  clients := h'.clients.trans h.clients
  listening client := (h'.listening client).trans (h.listening client)

/-! ### Parts of a session -/

lemma setStage (s : Session Bench) (stage : Stage) : Minds e x s (s.setStage e stage) :=
  ⟨id, rfl, fun _ hi => List.getElem?_modify_ne _ _ (Ne.symm hi), fun _ _ => rfl, rfl, fun _ => rfl⟩

lemma soon (s : Session Bench) (turns : Nat) (hcue : cue.isAwaitedBy e = true) :
    Minds e x s (s.soon turns cue) :=
  ⟨id, Agenda.drop_soon (by exact hcue) turns, fun _ _ => rfl, fun _ _ => rfl, rfl, fun _ => rfl⟩

lemma after (s : Session Bench) (duration : Duration) (turns : Nat) (hcue : cue.isAwaitedBy e = true) :
    Minds e x s { s with agenda := s.agenda.after duration turns cue } :=
  ⟨fun h => h.after duration turns cue, Agenda.drop_after (by exact hcue) duration turns, fun _ _ => rfl,
    fun _ _ => rfl, rfl, fun _ => rfl⟩

lemma pause (s : Session Bench) (duration : Duration) (hcue : cue.isAwaitedBy e = true) :
    Minds e x s { s with agenda := s.agenda.pause duration cue } :=
  ⟨fun h => h.pause duration cue, Agenda.drop_pause (by exact hcue) duration, fun _ _ => rfl,
    fun _ _ => rfl, rfl, fun _ => rfl⟩

lemma dropAwaited (s : Session Bench) : Minds e x s (s.dropAwaited e) :=
  ⟨fun h => h.drop _, Agenda.drop_drop _ fun _ => id, fun _ _ => rfl, fun _ _ => rfl, rfl, fun _ => rfl⟩

/-! ### The steps of an errand -/

lemma send (s : Session Bench) (hx : errand.handle.serial = x) (request : Request) :
    Minds e x s (s.send errand request).1 := by
  have hnoted : ∀ client, ((s.network.modifyClient errand.client fun c =>
      { c with calls := c.calls ++ [⟨errand.handle, request⟩] }).client client).isListening
        = (s.network.client client).isListening := fun client =>
    by rw [Bench.client_modifyClient]; split <;> rfl
  refine ⟨id, rfl, fun _ _ => rfl, ?_, ?_, ?_⟩
  · exact fun y hy => Bench.find?_send_ne (Ne.symm hy) hx errand.client request
  · show (s.network.send errand.client errand.handle request).1.clients.length = _
    unfold Bench.send
    dsimp only
    split <;> exact List.length_modify _ _ _
  · intro client
    show ((s.network.send errand.client errand.handle request).1.client client).isListening = _
    unfold Bench.send
    dsimp only
    split <;> exact hnoted client

lemma settle (s : Session Bench) (hx : errand.handle.serial = x) (request : Request) (answer : Answer) :
    Minds e x s (s.settle errand request answer).1 := by
  have hclients : (s.network.settle errand.handle request answer).1.clients = s.network.clients := by
    unfold Bench.settle
    split <;> rfl
  rw [Has.settle_eq]
  refine ⟨id, rfl, fun _ _ => rfl, ?_, congrArg List.length hclients, ?_⟩
  · exact fun y hy => Bench.find?_settle_ne (Ne.symm hy) hx request answer
  · intro client
    unfold Bench.client
    dsimp only
    rw [hclients]

lemma conclude (s : Session Bench) (hrun : errand.run = none) (isOk : Bool)
    (outcome : Except Fault Reply) : Minds e x s (s.conclude e errand isOk outcome) := by
  unfold Session.conclude
  rw [hrun]
  exact (dropAwaited s).trans (setStage _ _)

lemma fail (s : Session Bench) (hrun : errand.run = none) (fault : Fault) :
    Minds e x s (s.fail e errand fault) := by
  unfold Session.fail
  rw [hrun]
  exact conclude s hrun false _

/-- by the cases of a step of an errand that no run has dispatched -/
theorem of_stepping (h : Stepping e errand s t) (hrun : errand.run = none)
    (hx : errand.handle.serial = x) : Minds e x s t := by
  induction h with
  | ends s reply => exact conclude s hrun true _
  | fails s fault => exact fail s hrun fault
  | asks s next retries =>
    exact ((setStage s _).trans (after _ errand.timeout 1 (Cue.isAwaitedBy_expire e))).trans
      (soon _ 0 (Cue.isAwaitedBy_attempt e))
  | lapses s next retries => exact (setStage s _).trans (soon _ 2 (Cue.isAwaitedBy_resume e))
  | answers s next retries result =>
    exact (setStage s _).trans (soon _ 1 (Cue.isAwaitedBy_resume e))
  | pauses s duration request answer => exact pause s duration (Cue.isAwaitedBy_arrive e _ _)
  | waits s next duration request answer =>
    exact (setStage s _).trans (pause _ duration (Cue.isAwaitedBy_arrive e _ _))
  | drops _ ih => exact (dropAwaited _).trans ih
  | keeps mine => cases hrun.symm.trans mine
  | reports mine => cases hrun.symm.trans mine
  | sends request _ ih => exact (send _ hx request).trans ih
  | settles request answer _ ih => exact (settle _ hx request answer).trans ih

/-- performing a cue of an errand that no run has dispatched -/
theorem perform (he : s.errands[e]? = some errand) (hrun : errand.run = none)
    (hcue : cue.isAwaitedBy e = true) : Minds e errand.handle.serial s (s.perform cue) := by
  cases s.perform_course hcue with
  | late result =>
    rw [result]
    exact refl s
  | steps here _ stepping =>
    obtain rfl := Option.some.inj (he.symm.trans here)
    exact of_stepping stepping hrun rfl

end Minds

end Session

end Lamplighter
