import Lamplighter.Proofs.Run.Gist
import Lamplighter.Proofs.Run.Solo

/-!
# Prompt bulbs, and the outlines of benches

* `BenchBulb.IsPrompt`  every request is settled well as soon as it is sent;
* `Bench.outline`       which bulbs there are, and what the clients announce;
* `Bench.hears`         a client still listens in a session, which is not in the outline;
* `Bench.Retains`       no request changes the outline, nor who listens, and prompt bulbs stay prompt.
-/

namespace Lamplighter

/-- a reply but for the state that it tells -/
def Reply.outline : Reply → Reply
  | .nothing => .nothing
  | .state handle _ => .state handle default

namespace BenchBulb

/-- a request is settled well as soon as it is sent -/
structure IsPrompt (bulb : BenchBulb) : Prop where
  replies : ∀ reply ∈ bulb.replies, reply = .answer none none
  powerFaults : ∀ fault ∈ bulb.powerFaults, fault = none
  colorFaults : ∀ fault ∈ bulb.colorFaults, fault = none

/-- a prompt bulb answers well at once, and stays prompt -/
lemma IsPrompt.take {bulb : BenchBulb} (h : bulb.IsPrompt) (request : Request) :
    (bulb.take request).2 = (.atOnce, .ok) ∧ (bulb.take request).1.IsPrompt := by
  have hfaults : ∀ script : List (Option Fault), (∀ fault ∈ script, fault = none) →
      (nextFault script).1 = .ok ∧ ∀ fault ∈ (nextFault script).2, fault = none := by
    intro script hscript
    rcases script with _ | ⟨fault, rest⟩
    · exact ⟨rfl, hscript⟩
    · obtain rfl := hscript fault (List.mem_cons_self ..)
      exact ⟨rfl, fun fault hmem => hscript fault (List.mem_cons_of_mem _ hmem)⟩
  cases request with
  | read =>
    rcases hreplies : bulb.replies with _ | ⟨reply, rest⟩
    · simp only [BenchBulb.take, hreplies, nextReply]
      exact ⟨trivial, fun reply hmem => (List.not_mem_nil hmem).elim, h.powerFaults, h.colorFaults⟩
    · obtain rfl := h.replies reply (hreplies ▸ List.mem_cons_self ..)
      simp only [BenchBulb.take, hreplies, nextReply]
      refine ⟨rfl, fun reply hmem => h.replies reply ?_, h.powerFaults, h.colorFaults⟩
      rw [hreplies]
      exact List.mem_cons_of_mem _ hmem
  | power isOn duration =>
    obtain ⟨hok, hrest⟩ := hfaults _ h.powerFaults
    exact ⟨congrArg _ hok, h.replies, hrest, h.colorFaults⟩
  | color hue saturation brightness kelvin duration =>
    obtain ⟨hok, hrest⟩ := hfaults _ h.colorFaults
    exact ⟨congrArg _ hok, h.replies, h.powerFaults, hrest⟩
  | introduce => exact ⟨rfl, h⟩

/-- which bulb it is -/
def outline (bulb : BenchBulb) : BenchBulb where
  handle := bulb.handle
  state := default

lemma isPrompt_outline (bulb : BenchBulb) : bulb.outline.IsPrompt :=
  ⟨fun _ => nofun, fun _ => nofun, fun _ => nofun⟩

end BenchBulb

/-- what a client announces -/
def BenchClient.outline (client : BenchClient) : BenchClient where
  announced := client.announced
  isBroken := client.isBroken
  isListening := true

namespace Bench

variable {bench other : Bench} {serial : String} {client session : Nat}

/-- which bulbs there are, and what the clients announce -/
def outline (bench : Bench) : Bench where
  bulbs := bench.bulbs.map BenchBulb.outline
  clients := bench.clients.map BenchClient.outline

/-- the client still listens in the session -/
def hears (bench : Bench) (client session : Nat) : Bool :=
  (bench.client client).isListening && (bench.client client).starts == session

@[simp] lemma outline_outline (bench : Bench) : bench.outline.outline = bench.outline := by
  simp only [outline, List.map_map]
  rfl

lemma find?_outline (bench : Bench) (serial : String) :
    bench.outline.find? serial = (bench.find? serial).map BenchBulb.outline := by
  unfold find? outline
  rw [List.find?_map]
  rfl

lemma isSome_find? (h : other.outline = bench.outline) (serial : String) :
    (other.find? serial).isSome = (bench.find? serial).isSome := by
  have hsame := congrArg (fun bench : Bench => (bench.find? serial).isSome) h
  simpa only [find?_outline, Option.isSome_map] using hsame

lemma client_outline (bench : Bench) (client : Nat) :
    bench.outline.client client
      = ((bench.clients[client]?).map BenchClient.outline).getD {} := by
  unfold Bench.client outline
  rw [List.getElem?_map]

lemma hears_outline (bench : Bench) (client session : Nat) :
    bench.outline.hears client (if bench.hears client session then 0 else 1)
      = bench.hears client session := by
  unfold hears
  rw [client_outline]
  unfold Bench.client
  cases bench.clients[client]? with
  | none => rfl
  | some c =>
    simp only [Option.map_some, Option.getD_some, BenchClient.outline, Bool.true_and]
    split <;> simp_all

lemma announcements_outline (bench : Bench) (client : Nat) :
    bench.outline.announcements client = bench.announcements client := by
  have hannounced : (bench.outline.client client).announced = (bench.client client).announced := by
    rw [client_outline]
    unfold Bench.client
    cases bench.clients[client]? <;> rfl
  unfold announcements
  rw [hannounced]
  cases (bench.client client).announced with
  | none =>
    simp only [outline, List.map_map]
    rfl
  | some list =>
    simp only [find?_outline, Option.map_map]
    rfl

lemma isBroken_outline (bench : Bench) (client : Nat) :
    (bench.outline.client client).isBroken = (bench.client client).isBroken := by
  rw [client_outline]
  unfold Bench.client
  cases bench.clients[client]? <;> rfl

lemma outline_modify {change : BenchBulb → BenchBulb}
    (h : ∀ bulb, bench.find? serial = some bulb → (change bulb).handle = bulb.handle) :
    (bench.modify serial change).outline = bench.outline := by
  have hbulbs : ∀ bulbs : List BenchBulb,
      (∀ bulb, bulbs.find? (fun b => b.handle.serial == serial) = some bulb →
        (change bulb).handle = bulb.handle) →
      (modifyBulb bulbs serial change).map BenchBulb.outline = bulbs.map BenchBulb.outline := by
    intro bulbs
    induction bulbs with
    | nil => exact fun _ => rfl
    | cons b rest ih =>
      intro hfound
      unfold modifyBulb
      split
      · rename_i hserial
        have hhandle := hfound b (List.find?_cons_of_pos hserial)
        simp only [List.map_cons, BenchBulb.outline, hhandle]
      · rename_i hserial
        have hserial : (b.handle.serial == serial) = false := Bool.eq_false_iff.mpr hserial
        simp only [List.find?_cons, hserial] at hfound
        rw [List.map_cons, List.map_cons, ih hfound]
  exact congrArg (Bench.mk · _) (hbulbs bench.bulbs h)

lemma outline_modifyClient {change : BenchClient → BenchClient}
    (h : ∀ c, (change c).outline = c.outline) :
    (bench.modifyClient client change).outline = bench.outline := by
  refine congrArg (Bench.mk _) ?_
  show (bench.clients.modify client change).map BenchClient.outline = _
  rw [Session.map_modify_of_comp id h, List.modify_id]

lemma client_modifyClient (bench : Bench) (client other : Nat)
    (change : BenchClient → BenchClient) : (bench.modifyClient client change).client other
      = if client = other ∧ client < bench.clients.length then change (bench.client other)
        else bench.client other := by
  unfold Bench.client modifyClient
  rw [List.getElem?_modify]
  by_cases hsame : client = other
  · subst hsame
    by_cases hlt : client < bench.clients.length
    · rw [if_pos ⟨rfl, hlt⟩, List.getElem?_eq_getElem hlt]
      simp
    · rw [if_neg fun h => hlt h.2, List.getElem?_eq_none (Nat.not_lt.mp hlt)]
      rfl
  · simp [hsame]

lemma client_of_not_lt (h : ¬ client < bench.clients.length) : bench.client client = {} := by
  unfold Bench.client
  rw [List.getElem?_eq_none (Nat.not_lt.mp h)]
  rfl

/-- a client that has stopped hears nothing more -/
lemma hears_stop (bench : Bench) (client other session : Nat) :
    (bench.stop client).hears other session = (decide (client ≠ other) && bench.hears other session) := by
  unfold hears stop
  rw [client_modifyClient]
  by_cases hsame : client = other
  · subst hsame
    by_cases hlt : client < bench.clients.length
    · simp [hlt]
    · simp [hlt, client_of_not_lt hlt]
  · simp [hsame]

/-- a client that has just started hears what its new session announces, if there is such a client -/
lemma hears_start (hunbroken : (bench.client client).isBroken = false) :
    (bench.start client).1.hears client ((bench.client client).starts + 1)
      = decide (client < bench.clients.length) := by
  have hstart : (bench.start client).1 = bench.modifyClient client fun c =>
      { c with starts := (bench.client client).starts + 1, isListening := true } := by
    unfold start
    rw [if_neg (by simp [hunbroken])]
  rw [hstart]
  unfold hears
  rw [client_modifyClient]
  by_cases hlt : client < bench.clients.length
  · simp [hlt]
  · simp [hlt, client_of_not_lt hlt]

@[simp] lemma outline_start (bench : Bench) (client : Nat) :
    (bench.start client).1.outline = bench.outline := by
  unfold start
  dsimp only
  split <;> exact outline_modifyClient fun _ => rfl

@[simp] lemma outline_stop (bench : Bench) (client : Nat) :
    (bench.stop client).outline = bench.outline :=
  outline_modifyClient fun _ => rfl

/-! ### Requests -/

variable {handle : Handle} {request : Request} {bulb : BenchBulb}

lemma mem_modifyBulb {bulbs : List BenchBulb} {change : BenchBulb → BenchBulb}
    (h : bulb ∈ modifyBulb bulbs serial change) : bulb ∈ bulbs ∨
      ∃ old, bulbs.find? (fun b => b.handle.serial == serial) = some old ∧ change old = bulb := by
  induction bulbs with
  | nil => cases h
  | cons b rest ih =>
    unfold modifyBulb at h
    split at h
    · rename_i hserial
      rcases List.mem_cons.mp h with rfl | hmem
      · exact .inr ⟨b, by simp [hserial], rfl⟩
      · exact .inl (List.mem_cons_of_mem _ hmem)
    · rename_i hserial
      rcases List.mem_cons.mp h with rfl | hmem
      · exact .inl (List.mem_cons_self ..)
      · refine (ih hmem).imp (List.mem_cons_of_mem _) ?_
        rintro ⟨old, hfound, hold⟩
        exact ⟨old, by simpa [List.find?_cons, hserial] using hfound, hold⟩

/-- every bulb is prompt -/
def IsPrompt (bench : Bench) : Prop :=
  ∀ bulb ∈ bench.bulbs, bulb.IsPrompt

/-- the outline is the same, and who listens; prompt bulbs have stayed prompt -/
structure Retains (bench other : Bench) : Prop where
  outline : other.outline = bench.outline
  hears : other.hears = bench.hears
  prompt : bench.IsPrompt → other.IsPrompt

namespace Retains

lemma refl (bench : Bench) : bench.Retains bench :=
  ⟨rfl, rfl, id⟩

lemma trans {last : Bench} (h : bench.Retains other) (h' : other.Retains last) :
    bench.Retains last :=
  ⟨h'.outline.trans h.outline, h'.hears.trans h.hears, h'.prompt ∘ h.prompt⟩

lemma modify {change : BenchBulb → BenchBulb}
    (hhandle : ∀ bulb, bench.find? serial = some bulb → (change bulb).handle = bulb.handle)
    (hprompt : ∀ bulb, bench.find? serial = some bulb → bulb.IsPrompt → (change bulb).IsPrompt) :
    bench.Retains (bench.modify serial change) := by
  refine ⟨outline_modify hhandle, rfl, fun h bulb hmem => ?_⟩
  rcases mem_modifyBulb hmem with hold | ⟨old, hfound, rfl⟩
  · exact h bulb hold
  · exact hprompt old hfound (h old (List.mem_of_find?_eq_some hfound))

lemma modifyClient {change : BenchClient → BenchClient} (h : ∀ c, (change c).outline = c.outline)
    (hears : ∀ c, (change c).isListening = c.isListening ∧ (change c).starts = c.starts) :
    bench.Retains (bench.modifyClient client change) := by
  refine ⟨outline_modifyClient h, ?_, id⟩
  funext other session
  unfold Bench.hears
  rw [client_modifyClient]
  split
  · rw [(hears _).1, (hears _).2]
  · rfl

theorem send (bench : Bench) (client : Nat) (handle : Handle) (request : Request) :
    bench.Retains (bench.send client handle request).1 := by
  have hnoted : bench.Retains (bench.modifyClient client fun c =>
      { c with calls := c.calls ++ [⟨handle, request⟩] }) :=
    .modifyClient (fun _ => rfl) fun _ => ⟨rfl, rfl⟩
  unfold Bench.send
  dsimp only
  split
  · exact hnoted
  · rename_i bulb hbulb
    refine hnoted.trans (.modify ?_ ?_) <;> intro other hother <;>
      obtain rfl : bulb = other := Option.some.inj (hbulb.symm.trans hother)
    · exact take_handle bulb request
    · exact fun h => (h.take request).2

theorem settle (bench : Bench) (handle : Handle) (request : Request) (answer : Answer) :
    bench.Retains (bench.settle handle request answer).1 := by
  unfold Bench.settle
  split
  · exact .refl bench
  · exact .refl bench
  · exact .refl bench
  · exact .modify (fun _ _ => rfl) fun _ _ h => ⟨h.replies, h.powerFaults, h.colorFaults⟩

end Retains

lemma isPrompt_outline (bench : Bench) : bench.outline.IsPrompt := by
  intro bulb hmem
  obtain ⟨bulb, -, rfl⟩ := List.mem_map.mp hmem
  exact bulb.isPrompt_outline

/-- a prompt bulb settles a request at once -/
lemma IsPrompt.send (h : bench.IsPrompt) (hbulb : bench.find? handle.serial = some bulb)
    (client : Nat) (request : Request) : (bench.send client handle request).2 = (.atOnce, .ok) := by
  have hprompt := (h bulb (List.mem_of_find?_eq_some hbulb)).take request
  unfold Bench.send
  rw [hbulb]
  exact hprompt.1

/-- the outline tells what comes of a request, but for the state -/
lemma settle_outline (bench : Bench) (handle : Handle) (request : Request) (answer : Answer) :
    (bench.outline.settle handle request answer).2.1.map Reply.outline
      = (bench.settle handle request answer).2.1.map Reply.outline := by
  unfold Bench.settle
  rw [find?_outline]
  cases answer with
  | fault fault => rfl
  | ok => cases bench.find? handle.serial <;> cases request <;> rfl
  | impostor serial => cases bench.find? handle.serial <;> cases request <;> rfl

end Bench

end Lamplighter
