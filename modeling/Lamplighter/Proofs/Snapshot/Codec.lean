import Mathlib.Data.List.TakeWhile
import Lamplighter.Proofs.Json.Written
import Lamplighter.Snapshot.Codec

/-!
# Codec: snapshots as text and back

* `BulbState.IsShort`     the channels of a state have no more digits than a reader takes;
* `decode_encode`         the text of such states is read as these states;
* `isShort_of_decode`     whatever a text is read as has channels like that;
* `decode_encode_of_digits`   the same of states whose numbers are counted in digits.
-/

namespace Lamplighter

open Json Numeral Text

lemma Except.bind_eq_ok_iff {ε α β : Type} {x : Except ε α} {f : α → Except ε β} {b : β} :
    x >>= f = .ok b ↔ ∃ a, x = .ok a ∧ f a = .ok b := by
  cases x with
  | error e => simp [bind, Except.bind]
  | ok a => simp [bind, Except.bind]

lemma Except.mapError_eq_ok_iff {ε ε' α : Type} {x : Except ε α} {f : ε → ε'} {a : α} :
    x.mapError f = .ok a ↔ x = .ok a := by
  cases x with
  | error e => simp [Except.mapError]
  | ok a => simp [Except.mapError]

namespace BulbState

/-- the channels of a state have no more digits than a reader takes -/
structure IsShort (state : BulbState) : Prop where
  power : Json.IsShort state.power
  hue : Json.IsShort state.hue
  saturation : Json.IsShort state.saturation
  brightness : Json.IsShort state.brightness
  kelvin : Json.IsShort state.kelvin
  duration : Json.IsShort state.duration

instance : DecidablePred IsShort := fun state =>
  decidable_of_iff (Json.IsShort state.power ∧ Json.IsShort state.hue ∧ Json.IsShort state.saturation ∧
      Json.IsShort state.brightness ∧ Json.IsShort state.kelvin ∧ Json.IsShort state.duration)
    ⟨fun ⟨power, hue, saturation, brightness, kelvin, duration⟩ =>
      ⟨power, hue, saturation, brightness, kelvin, duration⟩,
    fun ⟨power, hue, saturation, brightness, kelvin, duration⟩ =>
      ⟨power, hue, saturation, brightness, kelvin, duration⟩⟩

lemma IsShort.isPlain {state : BulbState} (h : state.IsShort) : state.toJson.IsPlain := by
  refine ⟨by simp [members], trivial, h.power, h.hue, h.saturation, h.brightness, h.kelvin, h.duration,
    trivial⟩

end BulbState

/-! ### Short numbers -/

namespace Json

variable {n : Int} {json : Json} {cs rest : List Char}

lemma isShort_of_lt {m : Nat} (hm : m < 10 ^ maxDigits) (negative : Bool) :
    IsShort (if negative then -Int.ofNat m else Int.ofNat m) := by
  unfold IsShort
  split <;> simpa using hm

lemma isShort_ofDigits {digits : List Nat} (hdigits : ∀ d ∈ digits, d < 10)
    (hlength : digits.length ≤ maxDigits) (negative : Bool) : IsShort
      (if negative then -Int.ofNat (ofDigits 10 digits) else Int.ofNat (ofDigits 10 digits)) :=
  isShort_of_lt ((ofDigits_lt hdigits).trans_le (Nat.pow_le_pow_right (by decide) hlength)) negative

mutual

/-- no whole number in a value has more digits than a reader takes -/
def HasShort : Json → Prop
  | .int n => IsShort n
  | .arr items => HaveShort items
  | .obj members => MembersHaveShort members
  | _ => True

def HaveShort : List Json → Prop
  | [] => True
  | item :: items => item.HasShort ∧ HaveShort items

def MembersHaveShort : List (String × Json) → Prop
  | [] => True
  | (_, value) :: members => value.HasShort ∧ MembersHaveShort members

end

lemma mem_asciiDigits_lt (hcs : ∀ c ∈ cs, isAsciiDigit c = true) : ∀ d ∈ asciiDigits cs, d < 10 := by
  intro d hd
  obtain ⟨c, hc, rfl⟩ := List.mem_map.mp hd
  have hdigit := hcs c hc
  simp only [isAsciiDigit, Bool.and_eq_true, decide_eq_true_eq] at hdigit
  have hle : c.toNat ≤ '9'.toNat := hdigit.2
  have hnine : '9'.toNat = 57 := rfl
  have hzero : '0'.toNat = 48 := rfl
  omega

lemma isAsciiDigit_of_readWhole {whole : List Char} (h : readWhole cs = some (whole, rest)) :
    ∀ c ∈ whole, isAsciiDigit c = true := by
  unfold readWhole at h
  split at h
  · obtain ⟨rfl, _⟩ := Prod.mk.inj (Option.some.inj h)
    intro c hc
    rw [List.mem_singleton.mp hc]
    decide
  · split at h
    · rename_i first more _ hfirst
      obtain ⟨rfl, _⟩ := Prod.mk.inj (Option.some.inj h)
      intro c hc
      rcases List.mem_cons.mp hc with rfl | hc
      · exact hfirst
      · exact List.mem_takeWhile_imp hc
    · cases h
  · cases h

lemma hasShort_of_readNumber {negative : Bool} (h : readNumber negative cs = some (json, rest)) :
    json.HasShort := by
  unfold readNumber at h
  rw [Option.bind_eq_bind, Option.bind_eq_some_iff] at h
  obtain ⟨⟨whole, more⟩, hwhole, h⟩ := h
  dsimp only at h
  split at h
  · split at h
    · cases h
    · rename_i hlength
      obtain ⟨rfl, _⟩ := Prod.mk.inj (Option.some.inj h)
      refine isShort_ofDigits (mem_asciiDigits_lt (isAsciiDigit_of_readWhole hwhole)) ?_ negative
      rw [asciiDigits, List.length_map]
      omega
  · obtain ⟨rfl, _⟩ := Prod.mk.inj (Option.some.inj h)
    trivial

lemma hasShort_of_readWord (h : readWord cs = some (json, rest)) : json.HasShort := by
  unfold readWord at h
  split at h
  · obtain ⟨_, _, heq⟩ := Option.map_eq_some_iff.mp h
    rw [← (Prod.mk.inj heq).1]
    trivial
  · obtain ⟨_, _, heq⟩ := Option.map_eq_some_iff.mp h
    rw [← (Prod.mk.inj heq).1]
    trivial
  · obtain ⟨_, _, heq⟩ := Option.map_eq_some_iff.mp h
    rw [← (Prod.mk.inj heq).1]
    trivial
  · obtain ⟨_, _, heq⟩ := Option.map_eq_some_iff.mp h
    rw [← (Prod.mk.inj heq).1]
    trivial
  · obtain ⟨_, _, heq⟩ := Option.map_eq_some_iff.mp h
    rw [← (Prod.mk.inj heq).1]
    trivial
  · split at h
    · rw [← (Prod.mk.inj (Option.some.inj h)).1]
      trivial
    · exact hasShort_of_readNumber h
  · exact hasShort_of_readNumber h

lemma membersHaveShort_put {members : List (String × Json)} (h : MembersHaveShort members)
    (name : String) (hjson : json.HasShort) : MembersHaveShort (Assoc.put members name json) := by
  induction members with
  | nil => exact ⟨hjson, trivial⟩
  | cons member members ih =>
    rw [Assoc.put]
    split
    · exact ⟨hjson, h.2⟩
    · exact ⟨h.1, ih h.2⟩

lemma membersHaveShort_ofList {members : List (String × Json)} (h : MembersHaveShort members) :
    MembersHaveShort (Assoc.ofList members) := by
  have hfold : ∀ list, MembersHaveShort list → MembersHaveShort
      (members.foldl (fun list p => Assoc.put list p.1 p.2) list) := by
    induction members with
    | nil => exact fun list hlist => hlist
    | cons member members ih =>
      intro list hlist
      exact ih h.2 _ (membersHaveShort_put hlist _ h.1)
  exact hfold [] trivial

/-- whatever is read has short numbers: by induction on the fuel -/
theorem hasShort_of_read (fuel : Nat) : ∀ cs rest,
    (∀ json, readValue fuel cs = some (json, rest) → json.HasShort) ∧
    (∀ items, readItems fuel cs = some (items, rest) → HaveShort items) ∧
    ∀ members, readMembers fuel cs = some (members, rest) → MembersHaveShort members := by
  induction fuel with
  | zero => exact fun cs rest => ⟨fun _ h => by simp [readValue] at h,
      fun _ h => by simp [readItems] at h, fun _ h => by simp [readMembers] at h⟩
  | succ fuel ih =>
    intro cs rest
    refine ⟨?_, ?_, ?_⟩
    · intro json h
      unfold readValue at h
      split at h
      · obtain ⟨_, _, heq⟩ := Option.map_eq_some_iff.mp h
        rw [← (Prod.mk.inj heq).1]
        trivial
      · split at h
        · rw [← (Prod.mk.inj (Option.some.inj h)).1]
          trivial
        · obtain ⟨⟨items, more⟩, hitems, heq⟩ := Option.map_eq_some_iff.mp h
          rw [← (Prod.mk.inj heq).1]
          exact (ih _ _).2.1 items hitems
      · split at h
        · rw [← (Prod.mk.inj (Option.some.inj h)).1]
          trivial
        · obtain ⟨⟨members, more⟩, hmembers, heq⟩ := Option.map_eq_some_iff.mp h
          rw [← (Prod.mk.inj heq).1]
          exact membersHaveShort_ofList ((ih _ _).2.2 members hmembers)
      · exact hasShort_of_readWord h
    · intro items h
      unfold readItems at h
      rw [Option.bind_eq_bind, Option.bind_eq_some_iff] at h
      obtain ⟨⟨item, more⟩, hitem, h⟩ := h
      have hshort := (ih _ _).1 item hitem
      dsimp only at h
      split at h
      · rw [Option.bind_eq_bind, Option.bind_eq_some_iff] at h
        obtain ⟨⟨others, last⟩, hothers, h⟩ := h
        rw [← (Prod.mk.inj (Option.some.inj h)).1]
        exact ⟨hshort, (ih _ _).2.1 others hothers⟩
      · rw [← (Prod.mk.inj (Option.some.inj h)).1]
        exact ⟨hshort, trivial⟩
      · cases h
    · intro members h
      unfold readMembers at h
      split at h
      · rw [Option.bind_eq_bind, Option.bind_eq_some_iff] at h
        obtain ⟨⟨name, more⟩, _, h⟩ := h
        dsimp only at h
        split at h
        · rw [Option.bind_eq_bind, Option.bind_eq_some_iff] at h
          obtain ⟨⟨value, last⟩, hvalue, h⟩ := h
          have hshort := (ih _ _).1 value hvalue
          dsimp only at h
          split at h
          · rw [Option.bind_eq_bind, Option.bind_eq_some_iff] at h
            obtain ⟨⟨others, final⟩, hothers, h⟩ := h
            rw [← (Prod.mk.inj (Option.some.inj h)).1]
            exact ⟨hshort, (ih _ _).2.2 others hothers⟩
          · rw [← (Prod.mk.inj (Option.some.inj h)).1]
            exact ⟨hshort, trivial⟩
          · cases h
        · cases h
      · cases h

lemma hasShort_of_read? {text : String} (h : read? text = some json) : json.HasShort := by
  rw [read?, readChars?, Option.bind_eq_bind, Option.bind_eq_some_iff] at h
  obtain ⟨⟨value, rest⟩, hvalue, h⟩ := h
  dsimp only at h
  split at h
  · obtain rfl := Option.some.inj h
    exact (hasShort_of_read _ _ _).1 value hvalue
  · cases h

end Json

/-! ### Whole numbers that values stand for -/

namespace Numeral

variable {cs : List Char} {digits : List Nat}

lemma mapM_digitValue? (h : cs.mapM (digitValue? 10) = some digits) :
    digits.length = cs.length ∧ (∀ d ∈ digits, d < 10) ∧
      ∀ c ∈ cs, (digitValue? 10 c).isSome = true := by
  induction cs generalizing digits with
  | nil =>
    obtain rfl := Option.some.inj h
    simp
  | cons c cs ih =>
    rw [List.mapM_cons, Option.bind_eq_bind, Option.bind_eq_some_iff] at h
    obtain ⟨d, hd, h⟩ := h
    rw [Option.bind_eq_bind, Option.bind_eq_some_iff] at h
    obtain ⟨others, hothers, h⟩ := h
    obtain rfl := Option.some.inj h
    obtain ⟨hlength, hlt, hsome⟩ := ih hothers
    have hten : d < 10 := by
      rw [digitValue?, Option.filter_eq_some_iff] at hd
      simpa using hd.2
    simp_all

/-- the digits of a text that is read make up all of it -/
lemma readDigits_eq_some (h : readDigits 10 cs = some digits) : isGrouped cs = true ∧
    (∀ d ∈ digits, d < 10) ∧ cs.takeWhile (fun c => c == '_' || (digitValue? 10 c).isSome) = cs ∧
    digits.length = (cs.filter (· != '_')).length := by
  unfold readDigits at h
  split at h
  · rename_i hgrouped
    obtain ⟨hlength, hlt, hsome⟩ := mapM_digitValue? h
    refine ⟨hgrouped, hlt, ?_, hlength⟩
    rw [List.takeWhile_eq_self_iff]
    intro c hc
    by_cases hmark : c = '_'
    · simp [hmark]
    · simp [hsome c (List.mem_filter.mpr ⟨hc, by simpa using hmark⟩)]
  · cases h

/-- a numeral of few digits is a short number -/
lemma isShort_of_readInt {text : List Char} {n : Int} (h : readInt 10 text = .ok n) :
    Json.IsShort n := by
  unfold readInt at h
  dsimp only at h
  simp only [if_neg (show ¬(10 = 16) by decide)] at h
  split at h
  · cases h
  · rename_i hshort
    split at h
    · cases h
    · rename_i digits hread
      obtain rfl := Except.ok.inj h
      obtain ⟨hgrouped, hdigits, hall, hlength⟩ := readDigits_eq_some hread
      rw [hall] at hshort
      rw [hlength.symm] at hshort
      refine isShort_ofDigits hdigits (Nat.not_lt.mp fun hlong => hshort ?_) _
      exact ⟨trivial, hgrouped, hlong⟩

end Numeral

namespace Binary64

/-- a finite value is below two to the power of 1024 -/
lemma ofBits_bounds {bits : Nat} {negative : Bool} {m : Nat} {e : Int}
    (h : ofBits bits = .finite negative m e) : m < 2 ^ 53 ∧ e ≤ 971 := by
  have hbiased : bits / leadingBit % 2048 < 2048 := Nat.mod_lt _ (by decide)
  have hfraction : bits % leadingBit < leadingBit := Nat.mod_lt _ (by decide)
  have hleading : leadingBit = 2 ^ 52 := rfl
  unfold ofBits at h
  dsimp only at h
  split at h
  · split at h <;> cases h
  · split at h
    · cases h
      omega
    · cases h
      simp only [Int.ofNat_eq_natCast]
      omega

lemma isShort_of_truncate {x : Float} {n : Int} (h : truncate x = .ok n) : Json.IsShort n := by
  unfold truncate roundWith at h
  split at h
  · cases h
  · cases h
  · rename_i negative m e hvalue
    obtain ⟨hm, he⟩ := ofBits_bounds hvalue
    have habs : (if negative = true then -Int.ofNat m else Int.ofNat m).natAbs = m := by
      split <;> simp
    have htop : ∀ k ≤ 1024, 2 ^ k ≤ 10 ^ maxDigits := fun k hk =>
      (Nat.pow_le_pow_left (by decide) k).trans
        (Nat.pow_le_pow_right (by decide) (hk.trans (by decide)))
    dsimp only at h
    split at h
    · obtain rfl := Except.ok.inj h
      rw [Json.IsShort, Int.natAbs_mul, habs]
      calc m * 2 ^ e.toNat < 2 ^ 53 * 2 ^ e.toNat :=
            Nat.mul_lt_mul_of_pos_right hm (Nat.pow_pos (by decide))
        _ = 2 ^ (53 + e.toNat) := (pow_add ..).symm
        _ ≤ 10 ^ maxDigits := htop _ (by omega)
    · obtain rfl := Except.ok.inj h
      rw [Json.IsShort, truncDiv, Int.natAbs_tdiv, habs]
      exact ((Nat.div_le_self _ _).trans_lt hm).trans_le (htop 53 (by decide))

end Binary64

namespace Json

lemma isShort_of_toWhole {json : Json} {n : Int} (hjson : json.HasShort)
    (h : json.toWhole = .ok n) : IsShort n := by
  cases json with
  | int m =>
    obtain rfl := Except.ok.inj h
    exact hjson
  | bool b =>
    obtain rfl := Except.ok.inj h
    have hone : 1 < 10 ^ maxDigits := Nat.one_lt_pow (by decide) (by decide)
    cases b with
    | false => exact Nat.zero_lt_of_lt hone
    | true => exact hone
  | float x => exact Binary64.isShort_of_truncate (Except.mapError_eq_ok_iff.mp h)
  | str s => exact Numeral.isShort_of_readInt (Except.mapError_eq_ok_iff.mp h)
  | _ => cases h

lemma hasShort_get? {members : List (String × Json)} (h : MembersHaveShort members) {name : String}
    {value : Json} (hget : Assoc.get? members name = some value) : value.HasShort := by
  induction members with
  | nil => cases hget
  | cons member members ih =>
    rw [Assoc.get?] at hget
    split at hget
    · obtain rfl := Option.some.inj hget
      exact h.1
    · exact ih h.2 hget

lemma hasShort_field {json value : Json} {name : String} (hjson : json.HasShort)
    (h : json.field name = .ok value) : value.HasShort := by
  unfold field at h
  split at h
  · split at h
    · rename_i hget
      obtain rfl := Except.ok.inj h
      exact hasShort_get? hjson hget
    · cases h
  · cases h

end Json

/-! ### Records -/

namespace BulbState

/-- what a record is read as has short channels -/
lemma isShort_of_ofJson {json : Json} {state : BulbState} (hjson : json.HasShort)
    (h : ofJson json = .ok state) : state.IsShort := by
  have hchannel : ∀ {name value n}, json.field name = .ok value → value.toWhole = .ok n →
      Json.IsShort n := fun hfield hwhole => isShort_of_toWhole (hasShort_field hjson hfield) hwhole
  simp only [ofJson, Except.bind_eq_ok_iff] at h
  obtain ⟨label, _, _, hp, power, hpower, _, hh, hue, hhue, _, hs, saturation, hsaturation, _, hb,
    brightness, hbrightness, _, hk, kelvin, hkelvin, h⟩ := h
  have hshort : ∀ {duration}, Json.IsShort duration →
      BulbState.IsShort { label := label.display, power, hue, saturation, brightness, kelvin, duration } :=
    fun hduration => ⟨hchannel hp hpower, hchannel hh hhue, hchannel hs hsaturation,
      hchannel hb hbrightness, hchannel hk hkelvin, hduration⟩
  split at h
  · rename_i value hget
    obtain ⟨duration, hduration, hpure⟩ := Except.bind_eq_ok_iff.mp h
    obtain rfl := Except.ok.inj hpure
    cases json with
    | obj members => exact hshort (isShort_of_toWhole (hasShort_get? hjson hget) hduration)
    | _ => cases hget
  · obtain rfl := Except.ok.inj h
    exact hshort (Nat.pow_pos (by decide))

end BulbState

namespace Snapshot

variable {states : List BulbState}

/-- the text of states is read as these states -/
theorem decode_encode (h : ∀ state ∈ states, state.IsShort) : decode (encode states) = .ok states := by
  have hplain : (Json.arr (states.map BulbState.toJson)).IsPlain := by
    show ArePlain _
    induction states with
    | nil => trivial
    | cons state states ih =>
      exact ⟨(h state (List.mem_cons_self ..)).isPlain,
        ih fun state hmem => h state (List.mem_cons_of_mem _ hmem)⟩
  have hread : (states.map BulbState.toJson).mapM BulbState.ofJson = .ok states := by
    induction states with
    | nil => rfl
    | cons state states ih =>
      rw [List.map_cons, List.mapM_cons, BulbState.ofJson_toJson, ih]
      · rfl
      · exact fun state hmem => h state (List.mem_cons_of_mem _ hmem)
      · exact hplain.2
  rw [decode, encode, read?_toText .unicode hplain]
  simp only [decodeList, hread]
  rfl

/-- whatever a text is read as has short channels -/
theorem isShort_of_decode {text : String} (h : decode text = .ok states) :
    ∀ state ∈ states, state.IsShort := by
  unfold decode at h
  split at h
  · cases h
  · rename_i items hread
    have hshort : HaveShort items := hasShort_of_read? hread
    have hstates := Except.mapError_eq_ok_iff.mp h
    clear h hread
    induction items generalizing states with
    | nil =>
      obtain rfl := Except.ok.inj hstates
      exact fun _ hmem => by cases hmem
    | cons item items ih =>
      rw [List.mapM_cons, Except.bind_eq_ok_iff] at hstates
      obtain ⟨state, hstate, hrest⟩ := hstates
      obtain ⟨others, hothers, hpure⟩ := Except.bind_eq_ok_iff.mp hrest
      obtain rfl := Except.ok.inj hpure
      intro other hmem
      rcases List.mem_cons.mp hmem with rfl | hmem
      · exact BulbState.isShort_of_ofJson hshort.1 hstate
      · exact ih hshort.2 hothers other hmem
  · cases h

end Snapshot

/-! ### Counted in digits -/

/-- a number is short when it is written in no more digits than a reader takes -/
lemma Json.isShort_iff {n : Int} : IsShort n ↔ (decimal n.natAbs).length ≤ maxDigits := by
  rw [decimal, List.length_map]
  constructor
  · exact fun h => length_toDigits_le (by decide) (by decide) h
  · intro h
    have hlt : ofDigits 10 (toDigits 10 n.natAbs) < 10 ^ (toDigits 10 n.natAbs).length :=
      ofDigits_lt fun d hd => mem_toDigits_lt (by decide) hd
    rw [ofDigits_toDigits (by decide)] at hlt
    exact hlt.trans_le (Nat.pow_le_pow_right (by decide) h)

/-- the numbers of a state, in the order in which they are written -/
def BulbState.numbers (state : BulbState) : List Int :=
  [state.power, state.hue, state.saturation, state.brightness, state.kelvin, state.duration]

lemma BulbState.isShort_iff {state : BulbState} :
    state.IsShort ↔ ∀ n ∈ state.numbers, Json.IsShort n := by
  simp only [numbers, List.forall_mem_cons, List.not_mem_nil, IsEmpty.forall_iff, implies_true,
    and_true]
  exact ⟨fun h => ⟨h.power, h.hue, h.saturation, h.brightness, h.kelvin, h.duration⟩,
    fun ⟨power, hue, saturation, brightness, kelvin, duration⟩ =>
      ⟨power, hue, saturation, brightness, kelvin, duration⟩⟩

namespace Snapshot

/-- the text of states is read as these states, one by one and in order, whatever characters their
labels have, if no number of theirs is written in more digits than a reader takes -/
theorem decode_encode_of_digits (states : List BulbState)
    (h : ∀ state ∈ states, ∀ n ∈ state.numbers, (decimal n.natAbs).length ≤ maxDigits) :
    decode (encode states) = .ok states := by
  refine decode_encode fun state hstate => BulbState.isShort_iff.mpr fun n hn => ?_
  exact Json.isShort_iff.mpr (h state hstate n hn)

/-- labels with quotes, backslashes, control characters, line separators and characters beyond the
first plane, and numbers with as many digits as there may be -/
def oddStates : List BulbState :=
  [{ label := "\"\\/\x00\x1f\x7f\t\u2028\u2029💡", power := 10 ^ 4300 - 1
     hue := -(10 ^ 4300 - 1), saturation := 0, brightness := -1, kelvin := 3500 },
   { label := "", power := 65535, hue := 0, saturation := 0, brightness := 0, kelvin := 0
     duration := -7 }]

theorem decode_encode_oddStates :
    (∀ state ∈ oddStates, ∀ n ∈ state.numbers, (decimal n.natAbs).length ≤ maxDigits) ∧
      decode (encode oddStates) = .ok oddStates := by
  have hshort : ∀ state ∈ oddStates, ∀ n ∈ state.numbers, Json.IsShort n := by decide +kernel
  have hdigits : ∀ state ∈ oddStates, ∀ n ∈ state.numbers,
      (decimal n.natAbs).length ≤ maxDigits :=
    fun state hstate n hn => Json.isShort_iff.mp (hshort state hstate n hn)
  exact ⟨hdigits, decode_encode_of_digits oddStates hdigits⟩

end Snapshot

end Lamplighter
