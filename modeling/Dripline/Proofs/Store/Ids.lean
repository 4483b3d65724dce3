import Dripline.Store.Storage

/-!
# Ids from a supply

No id is given twice: the next one differs from every id that the supply has given before
(`Ids.next_not_given`), since different counts are written differently.
-/

namespace Dripline

/-- An id that was taken from the supply. -/
def Ids.HasGiven (ids : Ids) (id : String) : Prop := ∃ k, k < ids.taken ∧ id = (Ids.mk k).next.1

/-- An id that a supply gives at some time. -/
def Ids.IsSupplied (id : String) : Prop := ∃ k, id = (Ids.mk k).next.1

theorem Ids.next_injective {a b : Nat} (h : (Ids.mk a).next.1 = (Ids.mk b).next.1) : a = b := by
  have hdigits : Nat.toDigits 10 (a + 1) = Nat.toDigits 10 (b + 1) := by
    simpa [Ids.next, Nat.repr] using congrArg String.toList h
  have hsucc : a + 1 = b + 1 := by
    rw [← Nat.ofDigitChars_ten_toDigits (n := a + 1), hdigits, Nat.ofDigitChars_ten_toDigits]
  exact Nat.succ.inj hsucc

theorem Ids.HasGiven.mono {ids ids' : Ids} {id : String} (h : ids.HasGiven id)
    (hle : ids.taken ≤ ids'.taken) : ids'.HasGiven id := by
  obtain ⟨k, hk, rfl⟩ := h
  exact ⟨k, Nat.lt_of_lt_of_le hk hle, rfl⟩

/-- The next id was never given before. -/
theorem Ids.next_not_given (ids : Ids) : ¬ ids.HasGiven ids.next.1 := by
  rintro ⟨k, hk, h⟩
  have : ids.taken = k := Ids.next_injective h
  omega

theorem Ids.next_given (ids : Ids) : ids.next.2.HasGiven ids.next.1 :=
  ⟨ids.taken, Nat.lt_succ_self _, rfl⟩

theorem Ids.taken_le_orNext (ids : Ids) (id : String) : ids.taken ≤ (ids.orNext id).2.taken := by
  unfold Ids.orNext Ids.next
  split
  · exact Nat.le_succ _
  · exact Nat.le_refl _

end Dripline
