import Mathlib.Data.List.Induction
import Mathlib.Data.List.Sort
import Mathlib.Data.String.Basic
import Lamplighter.Discovery.Search

/-!
# Entries: one for each serial, in the order of names

* `Session.filter_firstHandles`     of each serial the first handle counts, and no other;
* `Session.pairwise_firstHandles`   the serials stay in the order in which they first came;
* `Listed.pairwise_sort`            a listing is in the order of lower-cased names, and those of one
                                    name stay in their order.
-/

namespace Lamplighter

/-! ### The first handle of each serial -/

namespace Session

lemma firstHandles_concat (heard : List Handle) (handle : Handle) :
    firstHandles (heard ++ [handle])
      = if (firstHandles heard).any fun h => h.serial == handle.serial then firstHandles heard
        else firstHandles heard ++ [handle] := by
  rw [firstHandles, List.foldl_append]
  rfl

/-- some handle of a serial is there if any was heard of -/
lemma any_firstHandles (heard : List Handle) (serial : String) :
    ((firstHandles heard).any fun h => h.serial == serial) = heard.any fun h => h.serial == serial := by
  induction heard using List.reverseRecOn generalizing serial with
  | nil => rfl
  | append_singleton heard handle ih =>
    rw [firstHandles_concat, ih, List.any_append]
    split
    · rename_i hknown
      rw [ih, List.any_cons, List.any_nil, Bool.or_false]
      cases hserial : handle.serial == serial with
      | false => rw [Bool.or_false]
      | true => rw [← beq_iff_eq.mp hserial, hknown, Bool.or_true]
    · rw [List.any_append, ih]

/-- of each serial there is the first handle, and no other -/
theorem filter_firstHandles (heard : List Handle) (serial : String) :
    (firstHandles heard).filter (fun h => h.serial == serial)
      = (heard.find? fun h => h.serial == serial).toList := by
  induction heard using List.reverseRecOn with
  | nil => rfl
  | append_singleton heard handle ih =>
    have hnone : (heard.any fun h => h.serial == serial) = false →
        heard.find? (fun h => h.serial == serial) = none := by
      simp
    have hsome : (heard.any fun h => h.serial == serial) = true →
        ∃ h, heard.find? (fun h => h.serial == serial) = some h := by
      intro hany
      rw [← Option.isSome_iff_exists, List.find?_isSome]
      simpa using hany
    rw [firstHandles_concat, any_firstHandles, List.find?_append]
    cases hserial : handle.serial == serial with
    | false => split <;> simp [ih, hserial]
    | true =>
      obtain rfl := beq_iff_eq.mp hserial
      split
      · rename_i hknown
        obtain ⟨h, hfound⟩ := hsome hknown
        rw [ih, hfound]
        rfl
      · rename_i hnew
        rw [List.filter_append, ih, hnone (by simpa using hnew)]
        simp

/-- each handle is there at its first place -/
lemma sublist_firstHandles (heard : List Handle) : (firstHandles heard).Sublist heard := by
  induction heard using List.reverseRecOn with
  | nil => exact .slnil
  | append_singleton heard handle ih =>
    rw [firstHandles_concat]
    split
    · exact ih.trans (List.sublist_append_left ..)
    · exact ih.append_right _

/-- the serials stay in the order in which they first came -/
theorem pairwise_firstHandles (heard : List Handle) : (firstHandles heard).Pairwise fun a b =>
    heard.findIdx (fun h => h.serial == a.serial) < heard.findIdx fun h => h.serial == b.serial := by
  induction heard using List.reverseRecOn with
  | nil => exact .nil
  | append_singleton heard handle ih =>
    have hfound : ∀ a ∈ firstHandles heard,
        heard.findIdx (fun h => h.serial == a.serial) < heard.length := fun a ha =>
      List.findIdx_lt_length_of_exists
        ⟨a, (sublist_firstHandles heard).subset ha, beq_self_eq_true _⟩
    have hsame : ∀ a ∈ firstHandles heard, (heard ++ [handle]).findIdx (fun h => h.serial == a.serial)
        = heard.findIdx fun h => h.serial == a.serial := by
      intro a ha
      rw [List.findIdx_append, if_pos]
      exact hfound a ha
    have hkept : (firstHandles heard).Pairwise fun a b =>
        (heard ++ [handle]).findIdx (fun h => h.serial == a.serial)
          < (heard ++ [handle]).findIdx fun h => h.serial == b.serial := by
      refine ih.imp_of_mem fun ha hb hless => ?_
      rwa [hsame _ ha, hsame _ hb]
    rw [firstHandles_concat, any_firstHandles]
    split
    · exact hkept
    · rename_i hnew
      refine List.pairwise_append.mpr ⟨hkept, List.pairwise_singleton .., fun a ha b hb => ?_⟩
      obtain rfl := List.mem_singleton.mp hb
      have hbehind : heard.findIdx (fun h => h.serial == b.serial) = heard.length :=
        List.findIdx_eq_length.mpr (by simpa using hnew)
      rw [hsame a ha, List.findIdx_append, if_neg (by omega)]
      have hless := hfound a ha
      omega

/-- no serial is there twice -/
lemma serials_firstHandles (heard : List Handle) :
    (firstHandles heard).Pairwise fun a b => a.serial ≠ b.serial := by
  refine (pairwise_firstHandles heard).imp fun hless hsame => ?_
  rw [hsame] at hless
  exact lt_irrefl _ hless

end Session

/-! ### The order of a listing -/

namespace Listed

/-- a listing is in the order of lower-cased names, and what is said of those of one name by their
order stays true -/
theorem pairwise_sort {r : Listed → Listed → Prop} {listing : List Listed} (h : listing.Pairwise r) :
    (sort listing).Pairwise fun a b => Text.lowerString a.handle.name < Text.lowerString b.handle.name
      ∨ Text.lowerString a.handle.name = Text.lowerString b.handle.name ∧ r a b := by
  generalize hle : (fun a b : Listed =>
    decide (¬ Text.lowerString b.handle.name < Text.lowerString a.handle.name)) = le
  have hle' : ∀ a b, le a b = true
      ↔ Text.lowerString a.handle.name ≤ Text.lowerString b.handle.name := by
    intro a b
    rw [← hle, decide_eq_true_iff, not_lt]
  have htrans : ∀ a b c, le a b = true → le b c = true → le a c = true := by
    intro a b c hab hbc
    rw [hle'] at hab hbc ⊢
    exact hab.trans hbc
  have htotal : ∀ a b, (le a b || le b a) = true := by
    intro a b
    rw [Bool.or_eq_true, hle', hle']
    exact le_total _ _
  have hsort : sort listing = listing.mergeSort le := by rw [← hle]; rfl
  rw [hsort, List.pairwise_iff_forall_sublist]
  intro a b hab
  have hsorted : le a b = true :=
    List.pairwise_iff_forall_sublist.mp (List.pairwise_mergeSort htrans htotal listing) hab
  rcases lt_or_eq_of_le ((hle' a b).mp hsorted) with hless | hsame
  · exact .inl hless
  · -- those of this name are the same before and after, in the same order
    refine .inr ⟨hsame, ?_⟩
    generalize hname : Text.lowerString a.handle.name = name at hsame
    have hkept : (listing.mergeSort le).filter (fun c => Text.lowerString c.handle.name == name)
        = listing.filter fun c => Text.lowerString c.handle.name == name := by
      have hnamed : (listing.filter fun c => Text.lowerString c.handle.name == name).Pairwise
          fun a b => le a b = true := by
        refine List.pairwise_of_forall_mem_list fun c hc d hd => ?_
        rw [hle', beq_iff_eq.mp (List.mem_filter.mp hc).2, beq_iff_eq.mp (List.mem_filter.mp hd).2]
      have hsublist := (List.sublist_mergeSort htrans htotal hnamed List.filter_sublist).filter
        fun c : Listed => Text.lowerString c.handle.name == name
      rw [List.filter_filter] at hsublist
      simp only [Bool.and_self] at hsublist
      exact (hsublist.eq_of_length ((List.mergeSort_perm listing le).filter _).length_eq.symm).symm
    have hpair := hab.filter fun c : Listed => Text.lowerString c.handle.name == name
    rw [hkept, List.filter_cons_of_pos (by simpa using hname),
      List.filter_cons_of_pos (by simpa using hsame.symm), List.filter_nil] at hpair
    exact List.pairwise_iff_forall_sublist.mp h (hpair.trans List.filter_sublist)

end Listed

end Lamplighter
