import Lamplighter.Proofs.Text.Digits
import Lamplighter.Json.Writer

/-!
# Printed: what a written value is made of

* `Json.IsPrinted`         a character of ASCII that is no control character;
* `arePrinted_escape`      what stands for a character in a string is made of such characters;
* `arePrinted_renderFloat` and so is a floating-point number;
* `arePrinted_toText`      and so is the text of any value, at any depth.
-/

namespace Lamplighter.Json

open Text Shortest

/-- a character of ASCII that is no control character, so that it breaks no line -/
def IsPrinted (c : Char) : Prop :=
  0x20 ≤ c.toNat ∧ c.toNat < 0x7F

instance : DecidablePred IsPrinted :=
  fun _ => inferInstanceAs (Decidable (_ ∧ _))

/-- all characters of a text are printed -/
def ArePrinted (cs : List Char) : Prop :=
  ∀ c ∈ cs, IsPrinted c

instance : DecidablePred ArePrinted :=
  List.decidableBAll IsPrinted

lemma arePrinted_nil : ArePrinted [] :=
  fun _ hc => nomatch hc

lemma arePrinted_cons {c : Char} {cs : List Char} (hc : IsPrinted c) (hcs : ArePrinted cs) :
    ArePrinted (c :: cs) :=
  List.forall_mem_cons.mpr ⟨hc, hcs⟩

lemma ArePrinted.append {cs ds : List Char} (hcs : ArePrinted cs) (hds : ArePrinted ds) :
    ArePrinted (cs ++ ds) :=
  List.forall_mem_append.mpr ⟨hcs, hds⟩

lemma ArePrinted.of_subset {cs ds : List Char} (hds : ArePrinted ds) (h : cs ⊆ ds) : ArePrinted cs :=
  fun c hc => hds c (h hc)

/-! ### Strings -/

lemma isPrinted_digitChar : ∀ d < 16, IsPrinted (digitChar d) := by decide

lemma arePrinted_hexPadded (width n : Nat) : ArePrinted (hexPadded width n) := by
  induction width generalizing n with
  | zero => exact arePrinted_nil
  | succ width ih =>
    exact (ih (n / 16)).append
      (arePrinted_cons (isPrinted_digitChar _ (Nat.mod_lt n (by decide))) arePrinted_nil)

lemma arePrinted_codeEscape (c : Char) : ArePrinted (codeEscape c) := by
  have hunit : ∀ n, ArePrinted (unitEscape n) := fun n =>
    arePrinted_cons (by decide) (arePrinted_cons (by decide) (arePrinted_hexPadded 4 n))
  unfold codeEscape
  dsimp only
  split
  · exact hunit _
  · exact (hunit _).append (hunit _)

/-- what is not printed is written by a code -/
lemma arePrinted_escape (c : Char) : ArePrinted (escape .ascii c) := by
  unfold escape
  split_ifs with hquote hslash hline hreturn htab hback hfeed hcontrol houtside
  iterate 7 decide
  · exact arePrinted_codeEscape c
  · exact arePrinted_codeEscape c
  · have hprinted : IsPrinted c := ⟨Nat.not_lt.mp hcontrol, by simpa using houtside⟩
    exact arePrinted_cons hprinted arePrinted_nil

lemma arePrinted_renderString (s : String) : ArePrinted (renderString .ascii s) := by
  refine arePrinted_cons (by decide) (ArePrinted.append ?_ (by decide))
  intro c hc
  obtain ⟨d, -, hcd⟩ := List.mem_flatMap.mp hc
  exact arePrinted_escape d c hcd

/-! ### Numbers -/

lemma arePrinted_decimal (n : Nat) : ArePrinted (decimal n) := by
  intro c hc
  obtain ⟨d, hd, rfl⟩ := List.mem_map.mp hc
  exact isPrinted_digitChar d (Nat.lt_trans (mem_toDigits_lt (by decide) hd) (by decide))

lemma arePrinted_renderInt (n : Int) : ArePrinted (renderInt n) := by
  unfold renderInt signed
  split
  · exact arePrinted_cons (by decide) (arePrinted_decimal _)
  · exact arePrinted_decimal _

lemma arePrinted_zeros (count : Nat) : ArePrinted (List.replicate count '0') := by
  intro c hc
  rw [List.eq_of_mem_replicate hc]
  decide

lemma arePrinted_writePositional {digits : List Char} (hdigits : ArePrinted digits) (point : Int) :
    ArePrinted (writePositional digits point) := by
  unfold writePositional
  split
  · exact arePrinted_cons (by decide) (arePrinted_cons (by decide)
      ((arePrinted_zeros _).append hdigits))
  · have hwhole : ArePrinted (digits.take point.toNat) := hdigits.of_subset (List.take_subset ..)
    have hrest : ArePrinted (digits.drop point.toNat) := hdigits.of_subset (List.drop_subset ..)
    refine (hwhole.append (arePrinted_zeros _)).append (arePrinted_cons (by decide) ?_)
    split
    · decide
    · exact hrest

lemma arePrinted_writeScientific {digits : List Char} (hdigits : ArePrinted digits) (point : Int) :
    ArePrinted (writeScientific digits point) := by
  have hfirst : ArePrinted (digits.take 1) := hdigits.of_subset (List.take_subset ..)
  have hrest : ArePrinted (digits.drop 1) := hdigits.of_subset (List.drop_subset ..)
  unfold writeScientific
  dsimp only
  refine (hfirst.append ?_).append (arePrinted_cons (by decide) (arePrinted_cons ?_ ?_))
  · split
    · exact arePrinted_nil
    · exact arePrinted_cons (by decide) hrest
  · split <;> decide
  · split
    · exact arePrinted_cons (by decide) (arePrinted_decimal _)
    · exact arePrinted_decimal _

lemma arePrinted_renderFloat (x : Float) : ArePrinted (renderFloat x) := by
  unfold renderFloat renderNamed
  split
  · decide
  · split <;> decide
  · rename_i negative m e _
    have hlaid : ArePrinted (layout (shortest m e)).1 := by
      refine (arePrinted_decimal (shortest m e).digits).of_subset fun c hc => ?_
      exact List.mem_reverse.mp (List.dropWhile_subset _ (List.mem_reverse.mp hc))
    have hbody : ArePrinted (if m = 0 then ['0', '.', '0']
        else if -4 < (layout (shortest m e)).2 ∧ (layout (shortest m e)).2 ≤ 16
          then writePositional (layout (shortest m e)).1 (layout (shortest m e)).2
          else writeScientific (layout (shortest m e)).1 (layout (shortest m e)).2) := by
      split_ifs
      · decide
      · exact arePrinted_writePositional hlaid _
      · exact arePrinted_writeScientific hlaid _
    dsimp only
    split
    · exact arePrinted_cons (by decide) hbody
    · exact hbody

/-! ### Values -/

mutual

/-- by induction on the nesting -/
theorem arePrinted_render : (json : Json) → ArePrinted (render .ascii json)
  | .null => by rw [render]; decide
  | .bool true => by rw [render]; decide
  | .bool false => by rw [render]; decide
  | .int n => by
    rw [render]
    exact arePrinted_renderInt n
  | .float x => by
    rw [render]
    exact arePrinted_renderFloat x
  | .str s => by
    rw [render]
    exact arePrinted_renderString s
  | .arr [] => by rw [render]; decide
  | .arr (item :: items) => by
    rw [render]
    exact arePrinted_cons (by decide) ((arePrinted_render item).append (arePrinted_renderItems items))
  | .obj [] => by rw [render]; decide
  | .obj ((name, value) :: members) => by
    rw [render]
    exact arePrinted_cons (by decide) ((arePrinted_renderString name).append
      (arePrinted_cons (by decide) ((arePrinted_render value).append (arePrinted_renderMembers members))))

lemma arePrinted_renderItems : (items : List Json) → ArePrinted (renderItems .ascii items)
  | [] => by rw [renderItems]; decide
  | item :: items => by
    rw [renderItems]
    exact arePrinted_cons (by decide) ((arePrinted_render item).append (arePrinted_renderItems items))

lemma arePrinted_renderMembers :
    (members : List (String × Json)) → ArePrinted (renderMembers .ascii members)
  | [] => by rw [renderMembers]; decide
  | (name, value) :: members => by
    rw [renderMembers]
    exact arePrinted_cons (by decide) ((arePrinted_renderString name).append
      (arePrinted_cons (by decide) ((arePrinted_render value).append (arePrinted_renderMembers members))))

end

/-- a text holds no line break, whatever value it is the text of -/
theorem arePrinted_toText (json : Json) : ArePrinted (json.toText .ascii).toList := by
  rw [toText, String.toList_ofList]
  exact arePrinted_render json

end Lamplighter.Json
