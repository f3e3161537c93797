import PullReview.Json.Bytes
import PullReview.Proofs.Text.Bytes

/-!
# Nesting

Lists and objects are read up to a depth. Content that opens one list more is not read,
whatever follows: the fault is one of depth, neither of syntax nor of encoding
(`readBytes_nestedLists`).
-/

namespace PullReview.Json

open Text

/-! ## Values -/

/-- A list whose first item is a list. -/
theorem readValue_listOfList (fuel depth : Nat) (rest : List Char) :
    readValue (fuel + 2) (depth + 1) ('[' :: '[' :: rest)
      = readItems (fuel + 1) depth ('[' :: rest) [] := rfl

/-- A list too many ends the reading before anything behind it is looked at. -/
theorem readValue_nested (rest : List Char) :
    ∀ (depth fuel k : Nat), depth < k → 2 * depth < fuel →
      readValue fuel depth (List.replicate k '[' ++ rest) = .error (.tooDeep false) := by
  -- two readers call one another for each list that is opened
  intro depth
  induction depth with
  | zero =>
    intro fuel k hk hfuel
    obtain ⟨fuel, rfl⟩ := Nat.exists_eq_succ_of_ne_zero (Nat.ne_of_gt hfuel)
    obtain ⟨k, rfl⟩ := Nat.exists_eq_succ_of_ne_zero (Nat.ne_of_gt hk)
    rfl
  | succ depth ih =>
    intro fuel k hk hfuel
    obtain ⟨fuel, rfl⟩ : ∃ f, fuel = f + 2 := ⟨fuel - 2, by omega⟩
    obtain ⟨k, rfl⟩ : ∃ j, k = j + 2 := ⟨k - 2, by omega⟩
    have hinner : readValue fuel depth ('[' :: (List.replicate k '[' ++ rest))
        = .error (.tooDeep false) := ih fuel (k + 1) (by omega) (by omega)
    show readValue _ _ ('[' :: '[' :: (List.replicate k '[' ++ rest)) = _
    rw [readValue_listOfList, readItems, hinner]
    rfl

theorem readChars_nested {depth k : Nat} (h : depth + 1 < k) (rest : List Char) :
    readChars depth (List.replicate k '[' ++ rest) = .error (.tooDeep false) := by
  obtain ⟨j, rfl⟩ := Nat.exists_eq_succ_of_ne_zero (Nat.ne_of_gt (Nat.zero_lt_of_lt h))
  have hspace : skipSpace (List.replicate (j + 1) '[' ++ rest)
      = List.replicate (j + 1) '[' ++ rest := rfl
  have hfuel : 2 * (depth + 1) < 2 * (List.replicate (j + 1) '[' ++ rest).length + 1 := by
    rw [List.length_append, List.length_replicate]
    omega
  unfold readChars
  rw [hspace, readValue_nested rest (depth + 1) _ (j + 1) h hfuel]

/-! ## Bytes -/

/-- ASCII without zeros is taken for UTF-8. -/
theorem charsOfBytes_ascii {bs : List Nat} (h : ∀ b ∈ bs, 0 < b ∧ b < 0x80) :
    charsOfBytes bs = .ok (bs.map Char.ofNat) := by
  have hutf8 := strictFrom_ascii bs bs.length 0 [] (fun b hb => (h b hb).2) (Nat.le_refl _)
  have h32 : mark32? bs = none := by
    unfold mark32?
    split
    · exact absurd (h 0 (by simp)).1 (by decide)
    · exact absurd (h 0xff (by simp)).2 (by decide)
    · rfl
  have h16 : mark16? bs = none := by
    unfold mark16?
    split
    · exact absurd (h 0xfe (by simp)).2 (by decide)
    · exact absurd (h 0xff (by simp)).2 (by decide)
    · rfl
  unfold charsOfBytes
  rw [h32, h16]
  dsimp only
  split
  · exact absurd (h 0xef (by simp)).2 (by decide)
  · exact absurd (h 0 (by simp)).1 (by decide)
  · exact absurd (h 0 (by simp)).1 (by decide)
  · exact absurd (h 0 (by simp)).1 (by decide)
  · exact absurd (h 0 (by simp)).1 (by decide)
  · exact absurd (h 0 (by simp)).1 (by decide)
  · exact absurd (h 0 (by simp)).1 (by decide)
  · exact hutf8

/-- Content that opens lists one inside the other, and closes them. -/
def nestedLists (k : Nat) : ByteArray :=
  ⟨(List.replicate k (0x5b : UInt8) ++ List.replicate k 0x5d).toArray⟩

theorem toList_nestedLists (k : Nat) :
    (nestedLists k).toList.map (fun b => b.toNat)
      = List.replicate k 0x5b ++ List.replicate k 0x5d := by
  rw [toList_eq]
  show (List.replicate k (0x5b : UInt8) ++ List.replicate k 0x5d).map (fun b : UInt8 => b.toNat) = _
  rw [List.map_append, List.map_replicate, List.map_replicate]
  rfl

theorem charsOfBytes_nestedLists (k : Nat) :
    charsOfBytes ((nestedLists k).toList.map (fun b => b.toNat))
      = .ok (List.replicate k '[' ++ List.replicate k ']') := by
  have hascii : ∀ b ∈ List.replicate k 0x5b ++ List.replicate k 0x5d, 0 < b ∧ b < 0x80 := by
    intro b hb
    rcases List.mem_append.mp hb with hb | hb
    · exact (List.eq_of_mem_replicate hb).symm ▸ (by decide)
    · exact (List.eq_of_mem_replicate hb).symm ▸ (by decide)
  rw [toList_nestedLists, charsOfBytes_ascii hascii, List.map_append, List.map_replicate,
    List.map_replicate]

/-- **Content that is nested too deep is not read.** -/
theorem readBytes_nestedLists {depth k : Nat} (h : depth + 1 < k) :
    readBytes depth (nestedLists k) = .error (.json (.tooDeep false)) := by
  unfold readBytes
  rw [charsOfBytes_nestedLists]
  dsimp only [Except.mapError, bind, Except.bind]
  rw [readChars_nested h]

end PullReview.Json
