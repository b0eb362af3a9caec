import NoxAssist.Buffer.Position

namespace NoxAssist

namespace Line

def offset : List Char → Nat → Nat → Nat
  | [], _, _ => 0
  | '\r' :: '\n' :: _, 0, _ => 0
  | '\r' :: '\n' :: chars, line + 1, column => offset chars line column + 2
  | c :: chars, 0, column =>
    if c = '\n' then 0
    else if units c ≤ column then
      if isBreak c then 1 else offset chars 0 (column - units c) + 1
    else 0
  | c :: chars, line + 1, column => offset chars (if isBreak c then line else line + 1) column + 1

def Single (c : Char) (chars : List Char) : Prop :=
  c = '\r' → chars.head? ≠ some '\n'

theorem offset_cons_zero {c : Char} {chars : List Char} (single : Single c chars) (column : Nat) :
    offset (c :: chars) 0 column =
      if c = '\n' then 0
      else if units c ≤ column then
        if isBreak c then 1 else offset chars 0 (column - units c) + 1
      else 0 := by
  rw [offset]
  rintro rest rfl rfl
  exact single rfl rfl

theorem offset_cons_succ {c : Char} {chars : List Char} (single : Single c chars)
    (line column : Nat) :
    offset (c :: chars) (line + 1) column =
      offset chars (if isBreak c then line else line + 1) column + 1 := by
  rw [offset]
  rintro rest rfl rfl
  exact single rfl rfl

theorem single_of_split {c : Char} {chars : List Char}
    (apart : ∀ rest, c = '\r' → chars = '\n' :: rest → False) : Single c chars := by
  intro carriage feed
  cases chars with
  | nil => cases feed
  | cons d rest =>
    obtain rfl := Option.some.inj feed
    exact apart rest carriage rfl

/-- A text is read by characters, except that a carriage return and a line feed go together. -/
@[elab_as_elim]
theorem reading_induction {motive : List Char → Prop} (nil : motive [])
    (pair : ∀ chars, motive chars → motive ('\r' :: '\n' :: chars))
    (cons : ∀ c chars, Single c chars → motive chars → motive (c :: chars)) (chars : List Char) :
    motive chars := by
  induction chars using split.induct with
  | case1 => exact nil
  | case2 chars ih => exact pair chars ih
  | case3 c chars apart _ ih => exact cons c chars (single_of_split apart) ih
  | case4 c chars apart _ ih => exact cons c chars (single_of_split apart) ih

theorem content_prefix (line : List Char) : content line <+: line := by
  unfold content
  split
  · rename_i rest same
    refine ⟨['\r', '\n'], ?_⟩
    rw [← List.reverse_reverse line, same]
    simp
  · rename_i rest _ same
    refine ⟨['\n'], ?_⟩
    rw [← List.reverse_reverse line, same]
    simp
  · exact List.prefix_rfl

theorem ne_of_isBreak {c d : Char} (other : isBreak c = false) (breaks : isBreak d = true) :
    c ≠ d := by
  rintro rfl
  rw [other] at breaks
  cases breaks

theorem content_cons {c : Char} (other : isBreak c = false) (line : List Char) :
    content (c :: line) = c :: content line := by
  have feed : c ≠ '\n' := ne_of_isBreak other rfl
  have carriage : c ≠ '\r' := ne_of_isBreak other rfl
  rcases shape : line.reverse with _ | ⟨d, _ | ⟨e, rest⟩⟩
  · simp [content, shape, feed]
  · by_cases ends : d = '\n'
    · simp [content, shape, ends, carriage]
    · simp [content, shape, ends]
  · by_cases ends : d = '\n'
    · by_cases pair : e = '\r'
      · simp [content, shape, ends, pair]
      · simp [content, shape, ends, pair]
    · simp [content, shape, ends]

theorem charsBefore_of_units {chars : List Char} (ones : ∀ c ∈ chars, units c = 1) (column : Nat) :
    charsBefore column chars = min column chars.length := by
  induction chars generalizing column with
  | nil => simp [charsBefore]
  | cons c chars ih =>
    have one := ones c List.mem_cons_self
    have rest := ih (fun d member => ones d (List.mem_cons_of_mem c member)) (column - 1)
    rw [charsBefore, one, rest, List.length_cons]
    split <;> omega

theorem charsBefore_of_ascii {line : List Char} (ascii : ∀ c ∈ line, c.toNat < 0x80)
    (column : Nat) :
    charsBefore column (content line) = min column (content line).length := by
  have front := content_prefix line
  refine charsBefore_of_units (fun c member => ?_) column
  exact if_pos (Nat.lt_trans (ascii c (front.subset member)) (by decide))

theorem units_of_isBreak {c : Char} (breaks : isBreak c = true) : units c = 1 := by
  rw [units, if_pos]
  simp only [isBreak, Bool.or_eq_true, Bool.and_eq_true, decide_eq_true_eq, beq_iff_eq] at breaks
  omega

def lookup (lines : List (List Char)) (line column : Nat) : Nat :=
  match lines[line]? with
  | none => lines.flatten.length
  | some chars => (lines.take line).flatten.length + charsBefore column (content chars)

theorem lookup_cons_zero (chars : List Char) (lines : List (List Char)) (column : Nat) :
    lookup (chars :: lines) 0 column = charsBefore column (content chars) := by
  simp [lookup]

theorem lookup_cons_succ (chars : List Char) (lines : List (List Char)) (line column : Nat) :
    lookup (chars :: lines) (line + 1) column = lookup lines line column + chars.length := by
  unfold lookup
  rw [List.getElem?_cons_succ]
  split
  · rw [List.flatten_cons, List.length_append, Nat.add_comm]
  · rw [List.take_succ_cons, List.flatten_cons, List.length_append]
    omega

theorem split_ne_nil (chars : List Char) : split chars ≠ [] := by
  fun_induction split chars with
  | case1 => exact List.cons_ne_nil _ _
  | case2 => exact List.cons_ne_nil _ _
  | case3 => exact List.cons_ne_nil _ _
  | case4 c chars _ _ ih =>
    obtain ⟨first, lines, shape⟩ := List.exists_cons_of_ne_nil ih
    rw [shape]
    exact List.cons_ne_nil _ _

theorem lookup_split (chars : List Char) (line column : Nat) :
    lookup (split chars) line column = offset chars line column := by
  fun_induction split chars generalizing line column with
  | case1 => cases line <;> rfl
  | case2 chars ih =>
    cases line with
    | zero => rfl
    | succ line => rw [lookup_cons_succ, ih, offset, List.length_cons, List.length_singleton]
  | case3 c chars apart breaks ih =>
    have single := single_of_split apart
    cases line with
    | zero =>
      rw [lookup_cons_zero, offset_cons_zero single, units_of_isBreak breaks, if_pos breaks]
      by_cases feed : c = '\n'
      · simp [content, charsBefore, feed]
      · simp [content, charsBefore, feed, units_of_isBreak breaks]
    | succ line =>
      rw [lookup_cons_succ, offset_cons_succ single, ih, if_pos breaks, List.length_singleton]
  | case4 c chars apart other ih =>
    have single := single_of_split apart
    rw [Bool.not_eq_true] at other
    obtain ⟨first, lines, shape⟩ := List.exists_cons_of_ne_nil (split_ne_nil chars)
    rw [shape] at ih ⊢
    cases line with
    | zero =>
      have feed : c ≠ '\n' := ne_of_isBreak other rfl
      rw [consChar, lookup_cons_zero, content_cons other, charsBefore, offset_cons_zero single,
        if_neg feed, ← ih, lookup_cons_zero, other]
      rfl
    | succ line =>
      rw [consChar, lookup_cons_succ, offset_cons_succ single, other, List.length_cons]
      have rest := ih (line + 1) column
      rw [lookup_cons_succ] at rest
      rw [← Nat.add_assoc, rest]
      rfl

end Line

namespace Buffer

theorem columnIndex_eq_charsBefore (b : Buffer) (start : Nat) (line : List Char) (column : Nat) :
    b.columnIndex start line column = Line.charsBefore column (Line.content line) := by
  unfold columnIndex
  split
  · rename_i shortcut
    refine (Line.charsBefore_of_ascii (fun c member => ?_) column).symm
    have small := List.all_eq_true.mp (Bool.and_eq_true_iff.mp shortcut).2 c member
    exact of_decide_eq_true small
  · rfl

theorem index_eq_offset (b : Buffer) (p : Position) :
    b.index p = Line.offset b.chars p.line p.character := by
  rw [← Line.lookup_split]
  unfold index Line.lookup
  cases found : (Line.split b.chars)[p.line]? with
  | none => simp only [found, Line.flatten_split]
  | some line => simp only [found, columnIndex_eq_charsBefore]

end Buffer

end NoxAssist
