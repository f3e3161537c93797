import PullReview.Text.Encoding.Utf8

/-!
# Bytes

The bytes of an array as a list, and the text of ASCII bytes in UTF-8.
-/

namespace PullReview.Text

theorem toListLoop_eq (bs : ByteArray) (i : Nat) (done : List UInt8) :
    ByteArray.toList.loop bs i done = done.reverse ++ bs.data.toList.drop i := by
  fun_induction ByteArray.toList.loop bs i done with
  | case1 i done h ih =>
    have hget : bs.get! i = bs.data.toList[i] := getElem!_pos bs.data i h
    rw [ih, List.reverse_cons, List.append_assoc, hget]
    exact congrArg (done.reverse ++ ·) (List.drop_eq_getElem_cons h).symm
  | case2 i done h =>
    have hdone : bs.data.toList.length ≤ i := Nat.not_lt.mp h
    rw [List.drop_eq_nil_of_le hdone, List.append_nil]

theorem toList_eq (bs : ByteArray) : bs.toList = bs.data.toList := toListLoop_eq bs 0 []

/-- ASCII is read byte by byte. -/
theorem strictFrom_ascii :
    ∀ (bs : List Nat) (fuel place : Nat) (done : List Char), (∀ b ∈ bs, b < 0x80) →
      bs.length ≤ fuel →
      strictFrom fuel place bs done = .ok (done.reverse ++ bs.map Char.ofNat) := by
  intro bs
  induction bs with
  | nil =>
    intro fuel place done _ _
    cases fuel with
    | zero => exact congrArg Except.ok (List.append_nil _).symm
    | succ fuel => exact congrArg Except.ok (List.append_nil _).symm
  | cons b bs ih =>
    intro fuel place done h hfuel
    obtain ⟨fuel, rfl⟩ : ∃ f, fuel = f + 1 := ⟨fuel - 1, by rw [List.length_cons] at hfuel; omega⟩
    have hb : b < 0x80 := h b (List.mem_cons_self ..)
    have hwhole : beginsWithHalf (b :: bs) = false := by
      unfold beginsWithHalf
      split
      · next heq => exact absurd (List.cons.inj heq).1 (by omega)
      · rfl
    have hsize : tailSize? b = some 0 := if_pos hb
    have hrest := ih fuel (place + 1) (Char.ofNat b :: done)
      (fun c hc => h c (List.mem_cons_of_mem _ hc)) (Nat.le_of_succ_le_succ hfuel)
    rw [List.reverse_cons, List.append_assoc] at hrest
    unfold strictFrom
    rw [hwhole, hsize]
    exact hrest

end PullReview.Text
