import Mathlib.Tactic.Lemma
import Lamplighter.Proofs.Run.Messages
import Lamplighter.Run.Basic

/-!
# Deeds: reading the record of a run

The record of a run has its deeds, the latest first.  Here it is read, the earliest first:

* `announced`   the bulbs that the run was told of;
* `queued`      the messages that were put into the inbox;
* `handled`     those that were handled while the run looked for bulbs;
* `cleared`     those that were left in the inbox and cleared away;
* `raised`      the bulbs whose effect had a fault, with the fault;
* `stops`, `aborts`, `finals`   how often the search was stopped, something went wrong, and the
                effect finished its work;
* `firsts`      of some bulbs the first one of each serial.
-/

namespace Lamplighter

namespace Deeds

def announced : List Deed → List Handle
  | [] => []
  | .heard handle :: deeds => announced deeds ++ [handle]
  | _ :: deeds => announced deeds

def queued : List Deed → List Message
  | [] => []
  | .queued message :: deeds => queued deeds ++ [message]
  | _ :: deeds => queued deeds

def handled : List Deed → List Message
  | [] => []
  | .handled message :: deeds => handled deeds ++ [message]
  | _ :: deeds => handled deeds

def cleared : List Deed → List Message
  | [] => []
  | .cleared message :: deeds => cleared deeds ++ [message]
  | _ :: deeds => cleared deeds

def raised : List Deed → List (Handle × Fault)
  | [] => []
  | .raised handle fault :: deeds => raised deeds ++ [(handle, fault)]
  | _ :: deeds => raised deeds

def stops : List Deed → Nat
  | [] => 0
  | .stopped :: deeds => stops deeds + 1
  | _ :: deeds => stops deeds

def aborts : List Deed → Nat
  | [] => 0
  | .aborted :: deeds => aborts deeds + 1
  | _ :: deeds => aborts deeds

def finals : List Deed → Nat
  | [] => 0
  | .finalized :: deeds => finals deeds + 1
  | _ :: deeds => finals deeds

theorem stops_eq_count (deeds : List Deed) : stops deeds = deeds.count .stopped := by
  induction deeds with
  | nil => rfl
  | cons deed deeds ih => cases deed <;> simp [stops, ih]

theorem aborts_eq_count (deeds : List Deed) : aborts deeds = deeds.count .aborted := by
  induction deeds with
  | nil => rfl
  | cons deed deeds ih => cases deed <;> simp [aborts, ih]

theorem finals_eq_count (deeds : List Deed) : finals deeds = deeds.count .finalized := by
  induction deeds with
  | nil => rfl
  | cons deed deeds ih => cases deed <;> simp [finals, ih]

/-- what is recorded later comes behind what was queued before -/
theorem queued_append (later earlier : List Deed) :
    queued (later ++ earlier) = queued earlier ++ queued later := by
  induction later with
  | nil => rw [List.nil_append, queued, List.append_nil]
  | cons deed later ih =>
    cases deed with
    | queued message =>
      show queued (later ++ earlier) ++ [message] = _ ++ (_ ++ [message])
      rw [ih, List.append_assoc]
    | _ => exact ih

/-! ### Clearing the inbox away -/

/-- the deeds of clearing messages away, the latest first -/
def clearing (messages : List Message) : List Deed :=
  (messages.map .cleared).reverse

lemma clearing_cons (message : Message) (rest : List Message) (deeds : List Deed) :
    clearing (message :: rest) ++ deeds = clearing rest ++ (.cleared message :: deeds) := by
  simp [clearing]

theorem cleared_clearing (messages : List Message) (deeds : List Deed) :
    cleared (clearing messages ++ deeds) = cleared deeds ++ messages := by
  induction messages generalizing deeds with
  | nil => exact (List.append_nil _).symm
  | cons message rest ih =>
    rw [clearing_cons, ih]
    show (cleared deeds ++ [message]) ++ rest = _
    rw [List.append_assoc]
    rfl

section
variable {α : Type} {read : List Deed → α}

/-- a reading that passes over what is cleared away does not see the clearing -/
lemma read_clearing (h : ∀ message deeds, read (.cleared message :: deeds) = read deeds)
    (messages : List Message) (deeds : List Deed) :
    read (clearing messages ++ deeds) = read deeds := by
  induction messages generalizing deeds with
  | nil => rfl
  | cons message rest ih => rw [clearing_cons, ih, h]

end

@[simp] lemma announced_clearing (messages : List Message) (deeds : List Deed) :
    announced (clearing messages ++ deeds) = announced deeds :=
  read_clearing (fun _ _ => rfl) messages deeds

@[simp] lemma queued_clearing (messages : List Message) (deeds : List Deed) :
    queued (clearing messages ++ deeds) = queued deeds :=
  read_clearing (fun _ _ => rfl) messages deeds

@[simp] lemma handled_clearing (messages : List Message) (deeds : List Deed) :
    handled (clearing messages ++ deeds) = handled deeds :=
  read_clearing (fun _ _ => rfl) messages deeds

@[simp] lemma raised_clearing (messages : List Message) (deeds : List Deed) :
    raised (clearing messages ++ deeds) = raised deeds :=
  read_clearing (fun _ _ => rfl) messages deeds

@[simp] lemma stops_clearing (messages : List Message) (deeds : List Deed) :
    stops (clearing messages ++ deeds) = stops deeds :=
  read_clearing (fun _ _ => rfl) messages deeds

@[simp] lemma aborts_clearing (messages : List Message) (deeds : List Deed) :
    aborts (clearing messages ++ deeds) = aborts deeds :=
  read_clearing (fun _ _ => rfl) messages deeds

@[simp] lemma finals_clearing (messages : List Message) (deeds : List Deed) :
    finals (clearing messages ++ deeds) = finals deeds :=
  read_clearing (fun _ _ => rfl) messages deeds

end Deeds

/-! ### The first bulb of each serial -/

/-- of some bulbs, in their order, the first one of each serial -/
def firsts (handles : List Handle) : List Handle :=
  handles.foldl (fun met h => if h.serial ∈ met.map Handle.serial then met else met ++ [h]) []

theorem firsts_concat (handles : List Handle) (h : Handle) :
    firsts (handles ++ [h]) =
      if h.serial ∈ (firsts handles).map Handle.serial then firsts handles
      else firsts handles ++ [h] := by
  rw [firsts, List.foldl_append]
  rfl

/-- no serial comes twice -/
theorem nodup_firsts (handles : List Handle) : ((firsts handles).map Handle.serial).Nodup := by
  induction handles using List.reverseRecOn with
  | nil => exact List.nodup_nil
  | append_singleton handles h ih =>
    rw [firsts_concat]
    split
    · exact ih
    · rename_i hnew
      rw [List.map_append, List.nodup_append]
      refine ⟨ih, by simp, ?_⟩
      intro a ha b hb hab
      obtain rfl : b = h.serial := by simpa using hb
      exact hnew (hab ▸ ha)

/-- a serial is among the first ones as soon as it is announced -/
theorem serial_mem_firsts {handles : List Handle} {serial : String} :
    serial ∈ (firsts handles).map Handle.serial ↔ serial ∈ handles.map Handle.serial := by
  induction handles using List.reverseRecOn with
  | nil => rfl
  | append_singleton handles h ih =>
    rw [firsts_concat, List.map_append, List.mem_append, ← ih]
    split
    · rename_i hold
      constructor
      · exact Or.inl
      · rintro (hs | hs)
        · exact hs
        · obtain rfl : serial = h.serial := by simpa using hs
          exact hold
    · rw [List.map_append, List.mem_append]

end Lamplighter
