import Dripline.Text.Blank
import Mathlib.Data.List.DropRight
import Mathlib.Data.List.TakeWhile

/-!
# Texts without blanks at their ends

* `trimBy_trimBy`, `strip_strip`: what is left of a text is left of itself;
* `isBlank_of_getLast?`: it does not end in a blank;
* `strip_singleton_iff`: the blanks are the characters of which nothing is left.
-/

namespace Dripline.Text

theorem trimBy_eq (p : Char → Bool) (cs : List Char) : trimBy p cs = (cs.dropWhile p).rdropWhile p := rfl

theorem trimBy_trimBy (p : Char → Bool) (cs : List Char) : trimBy p (trimBy p cs) = trimBy p cs := by
  have hfront : (trimBy p cs).dropWhile p = trimBy p cs := by
    rw [List.dropWhile_eq_self_iff, trimBy_eq]
    intro hpos
    have hinitial := List.rdropWhile_prefix p (cs.dropWhile p)
    rw [hinitial.getElem hpos]
    exact List.dropWhile_eq_self_iff.mp (List.dropWhile_idempotent p cs)
      (Nat.lt_of_lt_of_le hpos hinitial.length_le)
  rw [trimBy_eq p (trimBy p cs), hfront, trimBy_eq]
  exact List.rdropWhile_idempotent p _

theorem strip_strip (s : String) : strip (strip s) = strip s := by
  unfold strip stripChars
  rw [String.toList_ofList, trimBy_trimBy]

/-- What is left of a text does not end in a blank. -/
theorem isBlank_of_getLast? {s : String} {c : Char} (h : (strip s).toList.getLast? = some c) :
    isBlank c = false := by
  unfold strip stripChars at h
  rw [String.toList_ofList, trimBy_eq] at h
  obtain ⟨hne, hlast⟩ := List.mem_getLast?_eq_getLast h
  rw [hlast]
  exact Bool.eq_false_iff.mpr (List.rdropWhile_last_not isBlank _ hne)

/-- The blanks are the characters of which nothing is left. -/
theorem strip_singleton_iff (c : Char) : strip (String.singleton c) = "" ↔ isBlank c = true := by
  unfold strip stripChars trimBy
  rw [String.ofList_eq_empty_iff, String.toList_singleton, List.dropWhile_cons]
  cases hc : isBlank c with
  | true => simp
  | false => simp [hc]

end Dripline.Text
