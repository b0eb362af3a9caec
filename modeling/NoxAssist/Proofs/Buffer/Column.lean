import Mathlib.Algebra.GroupWithZero.Nat
import Mathlib.Order.Bounds.Basic
import NoxAssist.Proofs.Buffer.Encoding

namespace NoxAssist

namespace Line

def unitsOf (chars : List Char) : Nat :=
  (chars.map units).sum

@[simp] theorem unitsOf_nil : unitsOf [] = 0 := rfl

@[simp] theorem unitsOf_cons (c : Char) (chars : List Char) :
    unitsOf (c :: chars) = units c + unitsOf chars := rfl

@[simp] theorem unitsOf_append (front back : List Char) :
    unitsOf (front ++ back) = unitsOf front + unitsOf back := by
  simp [unitsOf]

theorem unitsOf_take_succ {chars : List Char} {k : Nat} {c : Char} (here : chars[k]? = some c) :
    unitsOf (chars.take (k + 1)) = unitsOf (chars.take k) + units c := by
  rw [List.take_add_one, here, unitsOf_append, Option.toList_some, unitsOf_cons, unitsOf_nil,
    Nat.add_zero]

theorem le_charsBefore_iff {chars : List Char} {column k : Nat} :
    k ≤ charsBefore column chars ↔ k ≤ chars.length ∧ unitsOf (chars.take k) ≤ column := by
  induction chars generalizing column k with
  | nil => simp [charsBefore]
  | cons c chars ih =>
    cases k with
    | zero => simp
    | succ k =>
      rw [charsBefore, List.take_succ_cons, unitsOf_cons, List.length_cons]
      split
      · rw [Nat.add_le_add_iff_right, Nat.add_le_add_iff_right, ih]
        omega
      · omega

theorem charsBefore_fits (column : Nat) (chars : List Char) :
    charsBefore column chars ≤ chars.length ∧
      unitsOf (chars.take (charsBefore column chars)) ≤ column :=
  le_charsBefore_iff.mp (Nat.le_refl _)

theorem charsBefore_mono {chars : List Char} {column further : Nat} (le : column ≤ further) :
    charsBefore column chars ≤ charsBefore further chars := by
  obtain ⟨within, fits⟩ := charsBefore_fits column chars
  exact le_charsBefore_iff.mpr ⟨within, Nat.le_trans fits le⟩

theorem charsBefore_eq {chars : List Char} {column k : Nat} {c : Char} (here : chars[k]? = some c)
    (reaches : unitsOf (chars.take k) ≤ column)
    (short : column < unitsOf (chars.take k) + units c) : charsBefore column chars = k := by
  have within : k < chars.length := (List.getElem?_eq_some_iff.mp here).1
  refine Nat.le_antisymm (Nat.le_of_lt_succ (Nat.lt_of_not_le fun more => ?_))
    (le_charsBefore_iff.mpr ⟨Nat.le_of_lt within, reaches⟩)
  have fits := (le_charsBefore_iff.mp more).2
  rw [unitsOf_take_succ here] at fits
  exact absurd short (Nat.not_lt_of_le fits)

theorem charsBefore_unitsOf_take {chars : List Char} {k : Nat} (within : k ≤ chars.length) :
    charsBefore (unitsOf (chars.take k)) chars = k := by
  cases here : chars[k]? with
  | none =>
    have whole : chars.length ≤ k := List.getElem?_eq_none_iff.mp here
    exact Nat.le_antisymm (Nat.le_trans (charsBefore_fits _ _).1 whole)
      (le_charsBefore_iff.mpr ⟨within, Nat.le_refl _⟩)
  | some c => exact charsBefore_eq here (Nat.le_refl _) (Nat.lt_add_of_pos_right (units_pos c))

theorem take_content {line : List Char} {k : Nat} (within : k ≤ (content line).length) :
    (content line).take k = line.take k := by
  obtain ⟨ending, whole⟩ := content_prefix line
  rw [← List.take_append_of_le_length within, whole]

theorem length_content_le (line : List Char) : (content line).length ≤ line.length := by
  have front := content_prefix line
  exact front.length_le

theorem isGreatest_charsBefore (line : List Char) (column : Nat) :
    IsGreatest {k | k ≤ (content line).length ∧ unitsOf (line.take k) ≤ column}
      (charsBefore column (content line)) := by
  constructor
  · obtain ⟨within, fits⟩ := charsBefore_fits column (content line)
    exact ⟨within, take_content within ▸ fits⟩
  · rintro k ⟨within, fits⟩
    exact le_charsBefore_iff.mpr ⟨within, (take_content within).symm ▸ fits⟩

end Line

namespace Buffer

def lineStart (b : Buffer) (line : Nat) : Nat :=
  ((Line.split b.chars).take line).flatten.length

theorem lineStart_succ {b : Buffer} {l : Nat} {line : List Char}
    (found : (Line.split b.chars)[l]? = some line) :
    b.lineStart (l + 1) = b.lineStart l + line.length := by
  unfold lineStart
  rw [List.take_add_one, found]
  simp

theorem lineStart_mono (b : Buffer) : Monotone b.lineStart := by
  intro l l' le
  unfold lineStart
  obtain ⟨more, rfl⟩ := Nat.exists_eq_add_of_le le
  simp [List.take_add]

theorem lineStart_of_length_le {b : Buffer} {l : Nat} (behind : (Line.split b.chars).length ≤ l) :
    b.lineStart l = b.chars.length := by
  rw [lineStart, List.take_of_length_le behind, Line.flatten_split]

theorem lineStart_le (b : Buffer) (l : Nat) : b.lineStart l ≤ b.chars.length := by
  rw [← lineStart_of_length_le (Nat.le_max_right l (Line.split b.chars).length)]
  exact b.lineStart_mono (Nat.le_max_left _ _)

theorem drop_lineStart {b : Buffer} {l : Nat} {line : List Char}
    (found : (Line.split b.chars)[l]? = some line) :
    b.chars.drop (b.lineStart l) = line ++ ((Line.split b.chars).drop (l + 1)).flatten := by
  obtain ⟨bound, rfl⟩ := List.getElem?_eq_some_iff.mp found
  have whole : b.chars = ((Line.split b.chars).take l).flatten ++
      ((Line.split b.chars).drop l).flatten := by
    rw [← List.flatten_append, List.take_append_drop, Line.flatten_split]
  conv_lhs => rw [whole]
  rw [lineStart, List.drop_left, List.drop_eq_getElem_cons bound, List.flatten_cons]

theorem index_on_line {b : Buffer} {l : Nat} {line : List Char}
    (found : (Line.split b.chars)[l]? = some line) (column : Nat) :
    b.index ⟨l, column⟩ = b.lineStart l + Line.charsBefore column (Line.content line) := by
  simp only [index, found, columnIndex_eq_charsBefore]
  rfl

theorem index_of_text_eq {b other : Buffer} (same : other.text = b.text) (p : Position) :
    other.index p = b.index p := by
  rw [index_eq_offset, index_eq_offset, String.ofList_injective same]

/-- A position stands behind as many characters of its line as fit into its column. Counting units
finds their number, and so does the shortcut on an ASCII line; a column inside a character of two
units stands before it. Nothing depends on the pieces of the buffer. -/
theorem index_is_greatest_fitting (b : Buffer) :
    (∀ (p : Position) (line : List Char), (Line.split b.chars)[p.line]? = some line →
      ∃ k,
        IsGreatest {k | k ≤ (Line.content line).length ∧
          Line.unitsOf (line.take k) ≤ p.character} k ∧
        b.index p = b.lineStart p.line + k ∧
        Line.charsBefore p.character (Line.content line) = k ∧
        ((∀ c ∈ line, c.toNat < 0x80) → min p.character (Line.content line).length = k) ∧
        ∀ (j : Nat) (c : Char), (Line.content line)[j]? = some c → Line.units c = 2 →
          p.character = Line.unitsOf (line.take j) + 1 → k = j) ∧
    ∀ other : Buffer, other.text = b.text → ∀ p, other.index p = b.index p := by
  refine ⟨fun p line found => ?_, fun other same p => index_of_text_eq same p⟩
  refine ⟨Line.charsBefore p.character (Line.content line), Line.isGreatest_charsBefore line _,
    index_on_line found _, rfl, fun ascii => (Line.charsBefore_of_ascii ascii _).symm, ?_⟩
  intro j c here wide inside
  have within : j ≤ (Line.content line).length :=
    Nat.le_of_lt (List.getElem?_eq_some_iff.mp here).1
  rw [← Line.take_content within] at inside
  exact Line.charsBefore_eq here (by omega) (by omega)

theorem index_is_greatest_fitting_emoji :
    let typed : Buffer := ⟨["a".toList, "b\n😀".toList, "c\r\n".toList]⟩
    IsGreatest {k | k ≤ 2 ∧ Line.unitsOf ("😀c\r\n".toList.take k) ≤ 1} 0 ∧
      typed.index ⟨1, 1⟩ = 3 ∧
      ∀ p, (ofText "ab\n😀c\r\n").index p = typed.index p := by
  intro typed
  obtain ⟨counted, alike⟩ := index_is_greatest_fitting typed
  obtain ⟨k, greatest, place, -, -, inside⟩ := counted ⟨1, 1⟩ "😀c\r\n".toList (by decide)
  obtain rfl : k = 0 := inside 0 '😀' (by decide) (by decide) (by decide)
  exact ⟨greatest, place, alike (ofText "ab\n😀c\r\n") (by decide)⟩

end Buffer

end NoxAssist
