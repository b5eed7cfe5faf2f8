import Mathlib.Data.List.Nodup
import Mathlib.Tactic.Lemma
import Lamplighter.Network.Lan
import Lamplighter.Proofs.Assoc
import Lamplighter.Proofs.Color.Reading

/-!
# Tables: which lights a client knows

* `Light.IsTame`, `Lan.IsTame`   lights within their bounds, which nothing but the network disturbs;
* `Lan.Keeps`                    the two tables of a client hold the same serials, each handle and each
                                 light under its own;
* `Lan.readings`                 what the reads of labels come to while a window is gone through;
* `finds_walk`                   who gives its label becomes known and is told of, and nobody else;
* `finds_goOn`                   and so it is whenever the search goes on;
* `fair_send`, `keeps_settle`    requests leave the tables with the serials that they had.
-/

namespace Lamplighter

/-! ### Tame lights -/

/-- a disturbance of the network, which is no crash -/
def Disturbance.IsMild : Disturbance → Prop
  | .crash => False
  | _ => True

def Turn.IsMild : Turn → Prop
  | .delay _ (some disturbance) => disturbance.IsMild
  | .disturbed disturbance => disturbance.IsMild
  | _ => True

/-- a light within its bounds, which only the network disturbs -/
structure Light.IsTame (light : Light) : Prop where
  sound : light.color.IsSound
  mild : ∀ turn ∈ light.turns, turn.IsMild

namespace Lan

variable {lan later : Lan} {client : Nat} {serial : String} {known : List String}

def IsTame (lan : Lan) : Prop :=
  ∀ light ∈ lan.lights, light.IsTame

def serials (lan : Lan) : List String :=
  lan.lights.map (·.serial)

lemma find?_isSome : (lan.find? serial).isSome ↔ serial ∈ lan.serials := by
  rw [find?, List.find?_isSome]
  simp [serials]

lemma find?_spec {light : Light} (h : lan.find? serial = some light) :
    light ∈ lan.lights ∧ light.serial = serial :=
  ⟨List.mem_of_find?_eq_some h, by simpa using List.find?_some h⟩

section Change

variable {change : Light → Light}

lemma serials_modifyLight (hchange : ∀ light, (change light).serial = light.serial)
    (lights : List Light) (serial : String) :
    (modifyLight lights serial change).map (·.serial) = lights.map (·.serial) := by
  induction lights with
  | nil => rfl
  | cons light rest ih =>
    unfold modifyLight
    split
    · rw [List.map_cons, List.map_cons, hchange]
    · rw [List.map_cons, List.map_cons, ih]

lemma tame_modifyLight (hchange : ∀ light : Light, light.IsTame → (change light).IsTame)
    {lights : List Light} (serial : String) (h : ∀ light ∈ lights, light.IsTame) :
    ∀ light ∈ modifyLight lights serial change, light.IsTame := by
  induction lights with
  | nil => exact h
  | cons first rest ih =>
    have hrest := fun light hlight => h light (List.mem_cons_of_mem _ hlight)
    have hfirst := h first (List.mem_cons_self ..)
    unfold modifyLight
    split
    · exact List.forall_mem_cons.mpr ⟨hchange first hfirst, hrest⟩
    · exact List.forall_mem_cons.mpr ⟨hfirst, ih hrest⟩

end Change

lemma isTame_takeTurn {light : Light} (h : light.IsTame) :
    light.takeTurn.1.IsTame ∧ light.takeTurn.2.IsMild := by
  unfold Light.takeTurn
  cases hturns : light.turns with
  | nil => exact ⟨h, trivial⟩
  | cons turn turns =>
    have hmild := h.mild
    rw [hturns] at hmild
    exact ⟨⟨h.sound, fun later hlater => hmild later (List.mem_cons_of_mem _ hlater)⟩,
      hmild turn (List.mem_cons_self ..)⟩

/-! ### What a client keeps -/

/-- the two tables of a client hold the same serials, in the order in which the lights became known, each
handle and each light under its own; and these lights are there -/
structure Keeps (lan : Lan) (client : Nat) (known : List String) : Prop where
  here : client < lan.clients.length
  devices : (lan.client client).devices.map Prod.fst = known
  lights : (lan.client client).lights = known.map fun serial => (serial, serial)
  own : ∀ entry ∈ (lan.client client).devices, entry.2.serial = entry.1
  distinct : known.Nodup
  there : ∀ serial ∈ known, serial ∈ lan.serials
  tame : lan.IsTame

/-- no known light is asked for its label -/
def AsksNew (lan : Lan) (client : Nat) (known : List String) : Prop :=
  ∀ serial disturbance rest,
    (lan.client client).search = some (.asking serial disturbance rest) → serial ∉ known

/-- a later network in which the client has the same tables, and the same lights are there -/
structure SameTables (lan later : Lan) (client : Nat) : Prop where
  length : later.clients.length = lan.clients.length
  devices : (later.client client).devices = (lan.client client).devices
  lights : (later.client client).lights = (lan.client client).lights
  listening : (later.client client).isListening = (lan.client client).isListening
  serials : later.serials = lan.serials
  tame : lan.IsTame → later.IsTame

theorem Keeps.of_same (h : lan.Keeps client known) (hsame : SameTables lan later client) :
    later.Keeps client known where
  here := hsame.length ▸ h.here
  devices := by rw [hsame.devices, h.devices]
  lights := by rw [hsame.lights, h.lights]
  own := by rw [hsame.devices]; exact h.own
  distinct := h.distinct
  there := by rw [hsame.serials]; exact h.there
  tame := hsame.tame h.tame

theorem SameTables.trans {last : Lan} (h : SameTables lan later client)
    (h' : SameTables later last client) : SameTables lan last client where
  length := h'.length.trans h.length
  devices := h'.devices.trans h.devices
  lights := h'.lights.trans h.lights
  listening := h'.listening.trans h.listening
  serials := h'.serials.trans h.serials
  tame := h'.tame ∘ h.tame

lemma client_modifyClient (change : LanClient → LanClient) (h : client < lan.clients.length) :
    (lan.modifyClient client change).client client = change (lan.client client) := by
  unfold Lan.client modifyClient
  dsimp only
  rw [List.getElem?_modify_eq, List.getElem?_eq_getElem h]
  rfl

lemma length_modifyClient (change : LanClient → LanClient) :
    (lan.modifyClient client change).clients.length = lan.clients.length :=
  List.length_modify ..

lemma same_refl (lan : Lan) (client : Nat) : SameTables lan lan client :=
  ⟨rfl, rfl, rfl, rfl, rfl, id⟩

lemma same_note (lan : Lan) (client : Nat) (packet : Packet) :
    SameTables lan (lan.note packet) client :=
  ⟨rfl, rfl, rfl, rfl, rfl, id⟩

lemma same_noteSearch (lan : Lan) (client : Nat) (interval : Float) (broadcast : String) :
    SameTables lan (lan.noteSearch interval broadcast) client := by
  unfold noteSearch
  dsimp only
  split
  · exact same_refl lan client
  · exact same_note lan client _

lemma same_openWindow (lan : Lan) (client : Nat) : SameTables lan lan.openWindow.1 client :=
  ⟨rfl, rfl, rfl, rfl, rfl, id⟩

lemma same_setSearch (state : SearchState) (h : client < lan.clients.length) :
    SameTables lan (lan.setSearch client state) client where
  length := length_modifyClient _
  devices := by rw [setSearch, client_modifyClient _ h]
  lights := by rw [setSearch, client_modifyClient _ h]
  listening := by rw [setSearch, client_modifyClient _ h]
  serials := rfl
  tame := id

lemma search_setSearch (state : SearchState) (h : client < lan.clients.length) :
    ((lan.setSearch client state).client client).search = some state := by
  rw [setSearch, client_modifyClient _ h]

lemma same_takeTurn (lan : Lan) (client : Nat) (serial : String) :
    SameTables lan (lan.takeTurn serial).1 client := by
  unfold takeTurn
  split
  · exact same_refl lan client
  · exact ⟨rfl, rfl, rfl, rfl, serials_modifyLight (fun light => by unfold Light.takeTurn; split <;> rfl) ..,
      fun h => tame_modifyLight (fun light hlight => (isTame_takeTurn hlight).1) _ h⟩

lemma mild_takeTurn (h : lan.IsTame) (serial : String) : (lan.takeTurn serial).2.IsMild := by
  unfold takeTurn
  split
  · trivial
  · rename_i light hfind
    exact (isTame_takeTurn (h light (find?_spec hfind).1)).2

/-! ### Going through a window -/

/-- a light that is not known yet becomes known when it gives its label -/
lemma keeps_introduce {light : Light} (h : lan.Keeps client known) (hlight : light ∈ lan.lights)
    (hnew : light.serial ∉ known) :
    (lan.introduce client light).1.Keeps client (known ++ [light.serial])
      ∧ ((lan.introduce client light).1.client client).isListening = (lan.client client).isListening := by
  have hdevices : light.serial ∉ (lan.client client).devices.map Prod.fst := by
    rw [h.devices]
    exact hnew
  have hlights : light.serial ∉ (lan.client client).lights.map Prod.fst := by
    rw [h.lights, List.map_map]
    simpa using hnew
  have hclient : (lan.introduce client light).1.client client = { lan.client client with
      lights := (lan.client client).lights ++ [(light.serial, light.serial)]
      devices := (lan.client client).devices ++ [(light.serial, (lan.introduce client light).2)] } := by
    show (lan.modifyClient client _).client client = _
    rw [client_modifyClient _ h.here]
    dsimp only
    rw [Assoc.put_of_not_mem _ hdevices, Assoc.put_of_not_mem _ hlights]
    rfl
  refine ⟨⟨?_, ?_, ?_, ?_, ?_, ?_, h.tame⟩, by rw [hclient]⟩
  · exact (length_modifyClient _).symm ▸ h.here
  · rw [hclient, List.map_append, h.devices]
    rfl
  · rw [hclient, h.lights, List.map_append]
    rfl
  · rw [hclient]
    intro entry hentry
    rcases List.mem_append.mp hentry with hentry | hentry
    · exact h.own entry hentry
    · rw [List.mem_singleton.mp hentry]
      rfl
  · rw [List.nodup_append]
    refine ⟨h.distinct, List.nodup_singleton _, ?_⟩
    rintro old hold _ hone rfl
    exact hnew (List.mem_singleton.mp hone ▸ hold)
  · intro serial hserial
    rcases List.mem_append.mp hserial with hserial | hserial
    · exact h.there serial hserial
    · rw [List.mem_singleton.mp hserial]
      exact List.mem_map_of_mem hlight

/-- the handles that a client is told of, and the serials and labels behind them -/
def pairs (handles : List Handle) : List (String × String) :=
  handles.map fun handle => (handle.serial, handle.label)

/-- what a search comes to: the lights that have become known, all of which the listener is told of, and
what the reads of labels came to -/
structure Finds (lan later : Lan) (client : Nat) (known : List String) (found : List Handle)
    (reads : List (String × Option String)) (new : List Handle) : Prop where
  keeps : later.Keeps client (known ++ new.map (·.serial))
  listening : (later.client client).isListening = (lan.client client).isListening
  told : found = if (lan.client client).isListening then new else []
  labels : reads.filterMap (fun read => read.2.map (read.1, ·)) = pairs new

/-- nothing is found -/
lemma Finds.of_same {reads : List (String × Option String)} (h : lan.Keeps client known)
    (hsame : SameTables lan later client)
    (hreads : reads.filterMap (fun read => read.2.map (read.1, ·)) = []) :
    Finds lan later client known [] reads [] where
  keeps := by simpa using h.of_same hsame
  listening := hsame.listening
  told := by split <;> rfl
  labels := hreads

theorem Finds.trans {last : Lan} {found found' : List Handle} {reads reads' : List (String × Option String)}
    {new new' : List Handle} (h : Finds lan later client known found reads new)
    (h' : Finds later last client (known ++ new.map (·.serial)) found' reads' new') :
    Finds lan last client known (found ++ found') (reads ++ reads') (new ++ new') where
  keeps := by
    rw [List.map_append, ← List.append_assoc]
    exact h'.keeps
  listening := h'.listening.trans h.listening
  told := by
    rw [h.told, h'.told, h.listening]
    split <;> rfl
  labels := by
    rw [List.filterMap_append, h.labels, h'.labels]
    exact (List.map_append ..).symm

/-- what is found from a network with the same tables on -/
lemma Finds.after_same {mid : Lan} {found new : List Handle} {reads : List (String × Option String)}
    (h : Finds mid later client known found reads new) (hsame : SameTables lan mid client) :
    Finds lan later client known found reads new where
  keeps := h.keeps
  listening := h.listening.trans hsame.listening
  told := by rw [h.told, hsame.listening]
  labels := h.labels

/-- the label of a light that is met -/
def labelOf? (lan : Lan) (serial : String) : Option String :=
  (lan.find? serial).map Light.name

lemma met_found (lan : Lan) (client : Nat) (serial : String) (found : List Handle) :
    lan.met client serial found
      = ((lan.met client serial []).1, found ++ (lan.met client serial []).2) := by
  unfold met
  split
  · simp
  · dsimp only
    split <;> simp

lemma finds_met (h : lan.Keeps client known) (hnew : serial ∉ known) : ∃ new,
    Finds lan (lan.met client serial []).1 client known (lan.met client serial []).2
      [(serial, lan.labelOf? serial)] new := by
  unfold met labelOf?
  split
  · rename_i hnone
    exact ⟨[], .of_same h (same_refl lan client) (by rw [hnone]; rfl)⟩
  · rename_i light hfind
    obtain ⟨hlight, rfl⟩ := find?_spec hfind
    obtain ⟨hkeeps, hlistening⟩ := keeps_introduce h hlight hnew
    refine ⟨[(lan.introduce client light).2], hkeeps, hlistening, ?_, by rw [hfind]; rfl⟩
    dsimp only
    rw [hlistening]
    rfl

/-- what the reads of labels come to while a window is gone through -/
def readings (lan : Lan) (client : Nat) : List Turnout → List (String × Option String)
  | [] | .delay _ :: _ | .disturbed _ :: _ => []
  | .other :: rest => readings lan client rest
  | .light serial :: rest =>
    if (Assoc.get? (lan.client client).devices serial).isSome then readings lan client rest
    else
      match (lan.note (.getColor serial)).takeTurn serial with
      | (lan, .ok) =>
        (serial, lan.labelOf? serial) :: readings (lan.met client serial []).1 client rest
      | (_, .delay ..) | (_, .silence) => []
      | (_, .disturbed .crash) => [(serial, none)]
      | (lan, .disturbed _) => (serial, none) :: readings lan client rest

/-- the search is set to wait, and asks for no label of a known light -/
lemma finds_setSearch {mid : Lan} {state : SearchState} {reads : List (String × Option String)}
    (h : lan.Keeps client known) (hsame : SameTables lan mid client)
    (hreads : reads.filterMap (fun read => read.2.map (read.1, ·)) = [])
    (hstate : ∀ serial disturbance rest, state = .asking serial disturbance rest → serial ∉ known) :
    Finds lan (mid.setSearch client state) client known [] reads []
      ∧ (mid.setSearch client state).AsksNew client (known ++ List.map Handle.serial []) := by
  have hhere := (h.of_same hsame).here
  refine ⟨.of_same h (hsame.trans (same_setSearch state hhere)) hreads, ?_⟩
  intro serial disturbance rest hsearch
  rw [search_setSearch state hhere] at hsearch
  rw [List.map_nil, List.append_nil]
  exact hstate serial disturbance rest (Option.some.inj hsearch)

/-- going through a window: by induction on what turns up -/
theorem finds_walk (turnout : List Turnout) (found : List Handle) (h : lan.Keeps client known) :
    ∃ more new, (lan.walk client found turnout).2.found = found ++ more
      ∧ Finds lan (lan.walk client found turnout).1 client known more (lan.readings client turnout) new
      ∧ (lan.walk client found turnout).1.AsksNew client (known ++ new.map (·.serial)) := by
  induction turnout generalizing lan found known with
  | nil =>
    exact ⟨[], [], (List.append_nil found).symm, finds_setSearch h (same_refl ..) rfl nofun⟩
  | cons entry rest ih =>
    cases entry with
    | other => exact ih found h
    | delay duration =>
      exact ⟨[], [], (List.append_nil found).symm, finds_setSearch h (same_refl ..) rfl nofun⟩
    | disturbed disturbance =>
      refine ⟨[], [], ?_⟩
      cases disturbance <;>
        exact ⟨(List.append_nil found).symm, finds_setSearch h (same_refl ..) rfl nofun⟩
    | light serial =>
      unfold walk readings
      by_cases hknown : (Assoc.get? (lan.client client).devices serial).isSome = true
      · rw [if_pos hknown, if_pos hknown]
        exact ih found h
      · rw [if_neg hknown, if_neg hknown]
        have hnew : serial ∉ known := by
          rw [Assoc.get?_isSome, h.devices] at hknown
          exact hknown
        have hsame := (same_note lan client (.getColor serial)).trans (same_takeTurn _ client serial)
        generalize (lan.note (.getColor serial)).takeTurn serial = asked at hsame ⊢
        obtain ⟨mid, turn⟩ := asked
        have hmid : mid.Keeps client known := h.of_same hsame
        have hread : Finds lan mid client known [] [(serial, none)] [] := .of_same h hsame rfl
        cases turn with
        | ok =>
          obtain ⟨new, hmet⟩ := finds_met hmid hnew
          obtain ⟨more, newer, hfound, hfinds, hasks⟩ :=
            ih (found ++ (mid.met client serial []).2) hmet.keeps
          dsimp only
          rw [met_found]
          refine ⟨(mid.met client serial []).2 ++ more, new ++ newer, ?_,
            (hmet.trans hfinds).after_same hsame, ?_⟩
          · rw [hfound, List.append_assoc]
          · rw [List.map_append, ← List.append_assoc]
            exact hasks
        | delay duration disturbance =>
          refine ⟨[], [], (List.append_nil found).symm, finds_setSearch h hsame rfl ?_⟩
          rintro _ _ _ ⟨⟩
          exact hnew
        | silence => exact ⟨[], [], (List.append_nil found).symm, finds_setSearch h hsame rfl nofun⟩
        | disturbed disturbance =>
          cases disturbance with
          | crash =>
            exact ⟨[], [], (List.append_nil found).symm, finds_setSearch h hsame rfl nofun⟩
          | _ =>
            obtain ⟨more, newer, hfound, hfinds, hasks⟩ := ih found hmid
            rw [← List.append_nil known] at hfinds
            exact ⟨more, newer, hfound, hread.trans hfinds, hasks⟩

/-- what the reads of labels come to when the search goes on -/
def readingsOn (lan : Lan) (client : Nat) : List (String × Option String) :=
  let c := lan.client client
  match c.search with
  | none | some .stuck => []
  | some .window =>
    let (opened, turnout) := (lan.noteSearch c.interval c.broadcast).openWindow
    opened.readings client turnout
  | some (.going rest) => lan.readings client rest
  | some (.asking serial none rest) =>
    (serial, lan.labelOf? serial) :: (lan.met client serial []).1.readings client rest
  | some (.asking serial (some .crash) _) => [(serial, none)]
  | some (.asking serial (some _) rest) => (serial, none) :: lan.readings client rest

theorem finds_goOn (h : lan.Keeps client known) (hasks : lan.AsksNew client known) : ∃ new,
    Finds lan (lan.goOn client).1 client known (lan.goOn client).2.found (lan.readingsOn client) new
      ∧ (lan.goOn client).1.AsksNew client (known ++ new.map (·.serial)) := by
  unfold goOn readingsOn
  dsimp only
  cases hsearch : (lan.client client).search with
  | none => exact ⟨[], .of_same h (same_refl ..) rfl, by simpa using hasks⟩
  | some state =>
    cases state with
    | stuck => exact ⟨[], .of_same h (same_refl ..) rfl, by simpa using hasks⟩
    | window =>
      have hsame := (same_noteSearch lan client (lan.client client).interval
        (lan.client client).broadcast).trans (same_openWindow _ client)
      generalize (lan.noteSearch (lan.client client).interval (lan.client client).broadcast).openWindow
        = opened at hsame ⊢
      obtain ⟨mid, turnout⟩ := opened
      obtain ⟨more, new, hfound, hfinds, hasks⟩ := finds_walk turnout [] (h.of_same hsame)
      refine ⟨new, ?_, hasks⟩
      dsimp only
      rw [hfound]
      exact hfinds.after_same hsame
    | going rest =>
      obtain ⟨more, new, hfound, hfinds, hasks⟩ := finds_walk rest [] h
      refine ⟨new, ?_, hasks⟩
      dsimp only
      rw [hfound]
      exact hfinds
    | asking serial disturbance rest =>
      have hnew := hasks serial disturbance rest hsearch
      cases disturbance with
      | none =>
        obtain ⟨first, hmet⟩ := finds_met h hnew
        obtain ⟨more, new, hfound, hfinds, hasks⟩ :=
          finds_walk rest (lan.met client serial []).2 hmet.keeps
        refine ⟨first ++ new, ?_, ?_⟩
        · dsimp only
          rw [hfound]
          exact hmet.trans hfinds
        · rw [List.map_append, ← List.append_assoc]
          exact hasks
      | some disturbance =>
        have hread : Finds lan lan client known [] [(serial, none)] [] :=
          .of_same h (same_refl ..) rfl
        cases disturbance with
        | crash => exact ⟨[], finds_setSearch h (same_refl ..) rfl nofun⟩
        | _ =>
          obtain ⟨more, new, hfound, hfinds, hasks⟩ := finds_walk rest [] h
          refine ⟨new, ?_, hasks⟩
          dsimp only
          rw [hfound]
          rw [← List.append_nil known] at hfinds
          exact hread.trans hfinds

/-! ### Requests -/

/-- a network in which no client is any different, and the same lights are there -/
structure SameClients (lan later : Lan) : Prop where
  clients : later.clients = lan.clients
  serials : later.serials = lan.serials
  tame : lan.IsTame → later.IsTame

lemma SameClients.same (h : SameClients lan later) (client : Nat) : SameTables lan later client := by
  have hclient : later.client client = lan.client client := by
    unfold Lan.client
    rw [h.clients]
  exact ⟨by rw [h.clients], by rw [hclient], by rw [hclient], by rw [hclient], h.serials, h.tame⟩

lemma SameClients.asksNew (h : SameClients lan later) (hasks : lan.AsksNew client known) :
    later.AsksNew client known := by
  unfold AsksNew Lan.client
  rw [h.clients]
  exact hasks

/-- what a request that was sent may come to: only a known light answers, as itself, and what keeps a read
from its answer is the network -/
def IsFair (known : List String) (handle : Handle) (request : Request) : Answer → Prop
  | .ok => handle.serial ∈ known
  | .impostor _ => False
  | .fault fault => request = .read → isPassedOver fault = true

lemma isPassedOver_of_mild {disturbance : Disturbance} (h : disturbance.IsMild) :
    isPassedOver disturbance.toFault = true := by
  cases disturbance with
  | crash => exact h.elim
  | _ => rfl

lemma fair_sendPacket (h : lan.Keeps client known) {handle : Handle} (request : Request)
    (hserial : handle.serial ∈ known) (packet : Packet) :
    SameClients lan (lan.sendPacket handle.serial packet).1
      ∧ IsFair known handle request (lan.sendPacket handle.serial packet).2.2 := by
  have htame : (lan.note packet).IsTame := h.tame
  have hmild := mild_takeTurn htame handle.serial
  have hsame := same_takeTurn (lan.note packet) client handle.serial
  have hclients : ((lan.note packet).takeTurn handle.serial).1.clients = lan.clients := by
    unfold takeTurn
    split <;> rfl
  unfold sendPacket
  dsimp only
  refine ⟨⟨hclients, hsame.serials, hsame.tame⟩, ?_⟩
  cases hturn : ((lan.note packet).takeTurn handle.serial).2 with
  | ok => exact hserial
  | silence => exact hserial
  | delay duration disturbance =>
    cases disturbance with
    | none => exact hserial
    | some disturbance =>
      rw [hturn] at hmild
      exact fun _ => isPassedOver_of_mild hmild
  | disturbed disturbance =>
    rw [hturn] at hmild
    exact fun _ => isPassedOver_of_mild hmild

lemma fair_sendKnown (h : lan.Keeps client known) (handle : Handle) (request : Request)
    (packet : Except LevelFault Packet) (hpacket : request = .read → ∃ sent, packet = .ok sent) :
    SameClients lan (lan.sendKnown client handle.serial packet).1
      ∧ IsFair known handle request (lan.sendKnown client handle.serial packet).2.2 := by
  have hrefl : SameClients lan lan := ⟨rfl, rfl, id⟩
  unfold sendKnown
  cases hget : Assoc.get? (lan.client client).lights handle.serial with
  | none => exact ⟨hrefl, fun _ => rfl⟩
  | some light =>
    have hmem := Assoc.mem_of_get? hget
    rw [h.lights] at hmem
    obtain ⟨serial, hserial, heq⟩ := List.mem_map.mp hmem
    obtain ⟨rfl, rfl⟩ := Prod.mk.inj heq
    cases packet with
    | error fault =>
      refine ⟨hrefl, fun hread => ?_⟩
      obtain ⟨sent, hsent⟩ := hpacket hread
      cases hsent
    | ok packet => exact fair_sendPacket h request hserial packet

/-- a request is sent -/
theorem fair_send (h : lan.Keeps client known) (handle : Handle) {request : Request}
    (hrequest : request ≠ .introduce) : SameClients lan (lan.send client handle request).1
      ∧ IsFair known handle request (lan.send client handle request).2.2 := by
  cases request with
  | introduce => exact absurd rfl hrequest
  | read => exact fair_sendKnown h handle _ _ fun _ => ⟨_, rfl⟩
  | power isOn duration => exact fair_sendKnown h handle _ _ nofun
  | color hue saturation brightness kelvin duration =>
    unfold send
    dsimp only
    split
    · exact ⟨⟨rfl, rfl, id⟩, nofun⟩
    · exact fair_sendKnown h handle _ _ nofun

/-- the handle of a known light is given the label that it answers with -/
lemma keeps_relabel (h : lan.Keeps client known) {handle : Handle} (light : Light)
    (hserial : handle.serial ∈ known) : ∃ later renamed,
      lan.relabel client handle light = (later, .ok renamed) ∧ renamed.serial = handle.serial
      ∧ later.Keeps client known ∧ later.lights = lan.lights
      ∧ (later.client client).isListening = (lan.client client).isListening
      ∧ (later.client client).search = (lan.client client).search := by
  unfold relabel
  cases hget : Assoc.get? (lan.client client).devices handle.serial with
  | none =>
    have hsome := Assoc.get?_isSome.mpr (h.devices.symm ▸ hserial)
    rw [hget] at hsome
    cases hsome
  | some old =>
    have hold : old.serial = handle.serial := h.own _ (Assoc.mem_of_get? hget)
    dsimp only
    split
    · exact ⟨lan, old, rfl, hold, h, rfl, rfl, rfl⟩
    · refine ⟨_, _, rfl, hold, ?_, rfl, ?_, ?_⟩
      · have hkeys : handle.serial ∈ (lan.client client).devices.map Prod.fst := h.devices.symm ▸ hserial
        refine ⟨(length_modifyClient _).symm ▸ h.here, ?_, ?_, ?_, h.distinct, h.there, h.tame⟩
        · rw [client_modifyClient _ h.here]
          exact (Assoc.keys_put_of_mem _ hkeys).trans h.devices
        · rw [client_modifyClient _ h.here]
          exact h.lights
        · rw [client_modifyClient _ h.here]
          intro entry hentry
          rcases Assoc.mem_put hentry with rfl | hentry
          · exact hold
          · exact h.own entry hentry
      · rw [client_modifyClient _ h.here]
      · rw [client_modifyClient _ h.here]

lemma same_modify (lan : Lan) (change : Light → Light) (hserial : ∀ light, (change light).serial = light.serial)
    (htame : ∀ light : Light, light.IsTame → (change light).IsTame) (serial : String) :
    SameClients lan (lan.modify serial change) :=
  ⟨rfl, serials_modifyLight hserial .., tame_modifyLight htame _⟩

/-- what a read comes to: an answer of the very light that was asked, or a fault of the network -/
def IsOwn (handle : Handle) (result : Except Fault Reply) : Prop :=
  (∃ known state, result = .ok (.state known state) ∧ known.serial = handle.serial)
    ∨ ∃ fault, result = .error fault ∧ isPassedOver fault = true

/-- a request is settled -/
theorem keeps_settle (h : lan.Keeps client known) {handle : Handle} {request : Request} {answer : Answer}
    (hrequest : request ≠ .introduce) (hfair : IsFair known handle request answer) :
    (lan.settle client handle request answer).1.Keeps client known
      ∧ ((lan.settle client handle request answer).1.client client).isListening
          = (lan.client client).isListening
      ∧ ((lan.settle client handle request answer).1.client client).search = (lan.client client).search
      ∧ (lan.settle client handle request answer).2.2 = []
      ∧ (request = .read → IsOwn handle (lan.settle client handle request answer).2.1) := by
  cases answer with
  | impostor serial => exact hfair.elim
  | fault fault =>
    have hsettle : lan.settle client handle request (.fault fault) = (lan, .error fault, []) := by
      unfold settle
      simp only [hrequest, decide_false, Bool.false_and, Bool.false_eq_true, ↓reduceIte]
    rw [hsettle]
    exact ⟨h, rfl, rfl, rfl, fun hread => .inr ⟨fault, rfl, hfair hread⟩⟩
  | ok =>
    obtain ⟨light, hfind⟩ := Option.isSome_iff_exists.mp (find?_isSome.mpr (h.there _ hfair))
    obtain ⟨hlight, hserial⟩ := find?_spec hfind
    have htame := h.tame light hlight
    have hsettle : lan.settle client handle request .ok = lan.carryOut client handle light request := by
      unfold settle
      rw [hfind]
    rw [hsettle]
    cases request with
    | introduce => exact absurd rfl hrequest
    | read =>
      obtain ⟨later, renamed, hrelabel, hown, hkeeps, -, hlistening, hsearch⟩ :=
        keeps_relabel h light hfair
      obtain ⟨state, hstate⟩ := PhysicalColor.toState_of_isSound htame.sound light.isOn light.name
      have hcarried : lan.carryOut client handle light .read
          = (later, .ok (.state renamed state), []) := by
        unfold carryOut
        simp only [hrelabel, hstate]
      rw [hcarried]
      exact ⟨hkeeps, hlistening, hsearch, rfl, fun _ => .inl ⟨renamed, state, rfl, hown⟩⟩
    | power isOn duration =>
      have hsame := same_modify lan (fun l : Light => { l with power := if isOn then powerOn else powerOff })
        (fun _ => rfl) (fun light hlight => ⟨hlight.sound, hlight.mild⟩) light.serial
      exact ⟨h.of_same (hsame.same client), rfl, rfl, rfl, nofun⟩
    | color hue saturation brightness kelvin duration =>
      unfold carryOut
      dsimp only
      split
      · rename_i color hcolor
        have hsound := PhysicalColor.isSound_of_ofLevels hcolor
        have hsame := same_modify lan (fun l : Light => { l with color }) (fun _ => rfl)
          (fun light hlight => ⟨hsound, hlight.mild⟩) light.serial
        exact ⟨h.of_same (hsame.same client), rfl, rfl, rfl, nofun⟩
      · exact ⟨h, rfl, rfl, rfl, nofun⟩

end Lan

end Lamplighter
