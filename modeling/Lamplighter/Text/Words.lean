/-!
# Words: a text is cut at blanks

A blank is a character of Unicode's white space, or one of the four ASCII separators 0x1C to 0x1F.
`words` gives the maximal runs of characters that are not blank, and `trim` drops the blanks at
both ends.  No word is empty and no word holds a blank.
-/

namespace Lamplighter.Text

def blankRanges : List (Nat × Nat) :=
  [(0x09, 0x0D), (0x1C, 0x20), (0x85, 0x85), (0xA0, 0xA0), (0x1680, 0x1680), (0x2000, 0x200A),
   (0x2028, 0x2029), (0x202F, 0x202F), (0x205F, 0x205F), (0x3000, 0x3000)]

/-- membership in a list of closed ranges of code points -/
def inRanges (ranges : List (Nat × Nat)) (c : Char) : Bool :=
  ranges.any fun (lo, hi) => lo ≤ c.toNat && c.toNat ≤ hi

def isBlank (c : Char) : Bool :=
  inRanges blankRanges c

/-- put `c` in front of the words of the text `next`: into the first one if that begins `next` -/
def attach (c : Char) (next : List Char) (ws : List (List Char)) : List (List Char) :=
  match next, ws with
  | d :: _, w :: ws => if isBlank d then [c] :: w :: ws else (c :: w) :: ws
  | _, ws => [c] :: ws

/-- the maximal runs of characters that are not blank, in order -/
def words : List Char → List (List Char)
  | [] => []
  | c :: cs => if isBlank c then words cs else attach c cs (words cs)

/-- the text without the blanks at its two ends -/
def trim (cs : List Char) : List Char :=
  ((cs.dropWhile isBlank).reverse.dropWhile isBlank).reverse

/-- words with one separator between neighbours -/
def joinWith (separator : List Char) : List (List Char) → List Char
  | [] => []
  | [w] => w
  | w :: ws => w ++ separator ++ joinWith separator ws

@[simp] theorem words_nil : words [] = [] := rfl

theorem words_cons_blank {c : Char} (h : isBlank c = true) (cs : List Char) :
    words (c :: cs) = words cs := by
  simp [words, h]

theorem words_cons_of_not_blank {c : Char} (h : isBlank c = false) (cs : List Char) :
    words (c :: cs) = attach c cs (words cs) := by
  simp [words, h]

theorem ne_nil_of_mem_attach {c : Char} {next w : List Char} {ws : List (List Char)}
    (hws : ∀ v ∈ ws, v ≠ []) (h : w ∈ attach c next ws) : w ≠ [] := by
  unfold attach at h
  split at h
  · split at h <;> simp only [List.mem_cons] at h hws
    · rcases h with rfl | h
      · simp
      · exact hws _ h
    · rcases h with rfl | h
      · simp
      · exact hws _ (Or.inr h)
  · rcases List.mem_cons.1 h with rfl | h
    · simp
    · exact hws _ h

theorem ne_nil_of_mem_words {w : List Char} {cs : List Char} (h : w ∈ words cs) : w ≠ [] := by
  induction cs generalizing w with
  | nil => simp at h
  | cons c cs ih =>
    cases hc : isBlank c
    · rw [words_cons_of_not_blank hc] at h
      exact ne_nil_of_mem_attach (fun _ hv => ih hv) h
    · rw [words_cons_blank hc] at h
      exact ih h

end Lamplighter.Text
