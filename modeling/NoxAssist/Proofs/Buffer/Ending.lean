import NoxAssist.Proofs.Buffer.Column

namespace NoxAssist

namespace Line

inductive Ending : List Char → Prop
  | missing : Ending []
  | pair : Ending ['\r', '\n']
  | single {c : Char} (breaks : isBreak c = true) : Ending [c]

def body (line : List Char) : List Char :=
  line.takeWhile fun c => !isBreak c

def keepsBreak (line : List Char) : Bool :=
  line.getLast?.any fun c => isBreak c && c != '\n'

theorem split_shape {chars : List Char} {l : Nat} {line : List Char}
    (found : (split chars)[l]? = some line) :
    ∃ front ending, (∀ c ∈ front, isBreak c = false) ∧ Ending ending ∧ line = front ++ ending ∧
      (ending = [] ↔ l + 1 = (split chars).length) := by
  fun_induction split chars generalizing l line with
  | case1 =>
    cases l with
    | zero =>
      obtain rfl : [] = line := by simpa using found
      exact ⟨[], [], by simp, .missing, rfl, by simp⟩
    | succ l => simp at found
  | case2 chars ih =>
    cases l with
    | zero =>
      obtain rfl : ['\r', '\n'] = line := by simpa using found
      exact ⟨[], _, by simp, .pair, rfl, by simp [split_ne_nil]⟩
    | succ l => simpa using ih (by simpa using found)
  | case3 c chars apart breaks ih =>
    cases l with
    | zero =>
      obtain rfl : [c] = line := by simpa using found
      exact ⟨[], _, by simp, .single breaks, rfl, by simp [split_ne_nil]⟩
    | succ l => simpa using ih (by simpa using found)
  | case4 c chars apart other ih =>
    obtain ⟨first, lines, shape⟩ := List.exists_cons_of_ne_nil (split_ne_nil chars)
    rw [shape] at ih found ⊢
    cases l with
    | zero =>
      obtain rfl : c :: first = line := by simpa [consChar] using found
      obtain ⟨front, ending, plain, ends, rfl, last⟩ := ih (l := 0) rfl
      refine ⟨c :: front, ending, ?_, ends, rfl, last⟩
      exact List.forall_mem_cons.mpr ⟨by simpa using other, plain⟩
    | succ l => exact ih (l := l + 1) found

theorem body_append {front ending : List Char} (plain : ∀ c ∈ front, isBreak c = false)
    (ends : Ending ending) : body (front ++ ending) = front := by
  have inside : ∀ c ∈ front, (!isBreak c) = true := by simpa using plain
  rw [body, List.takeWhile_append_of_pos inside]
  cases ends with
  | missing => simp
  | pair => simp [isBreak]
  | single breaks => simp [breaks]

theorem content_append {front : List Char} (plain : ∀ c ∈ front, isBreak c = false)
    (rest : List Char) : content (front ++ rest) = front ++ content rest := by
  induction front with
  | nil => rfl
  | cons c front ih =>
    have other := plain c List.mem_cons_self
    rw [List.cons_append, content_cons other, ih fun d member => plain d (.tail c member)]
    rfl

theorem length_body_le_content {chars : List Char} {l : Nat} {line : List Char}
    (found : (split chars)[l]? = some line) : (body line).length ≤ (content line).length := by
  obtain ⟨front, ending, plain, ends, rfl, -⟩ := split_shape found
  rw [content_append plain, body_append plain ends, List.length_append]
  exact Nat.le_add_right _ _

theorem content_cases {chars : List Char} {l : Nat} {line : List Char}
    (found : (split chars)[l]? = some line) :
    content line = body line ∧ keepsBreak line = false ∨
      content line = line ∧ line.length = (body line).length + 1 ∧ keepsBreak line = true ∧
        l + 1 ≠ (split chars).length := by
  obtain ⟨front, ending, plain, ends, rfl, last⟩ := split_shape found
  rw [content_append plain, body_append plain ends]
  cases ends with
  | missing =>
    refine .inl ⟨by simp [content], ?_⟩
    cases ended : front.getLast? with
    | none => simp [keepsBreak, ended]
    | some c => simp [keepsBreak, ended, plain c (List.mem_of_getLast? ended)]
  | pair => exact .inl ⟨by simp [content], by simp [keepsBreak]⟩
  | single breaks =>
    rename_i c
    by_cases feed : c = '\n'
    · subst feed
      exact .inl ⟨by simp [content], by simp [keepsBreak]⟩
    · have kept : content [c] = [c] := by simp [content, feed]
      rw [kept]
      exact .inr ⟨rfl, by simp, by simp [keepsBreak, breaks, feed], by simpa using last⟩

end Line

namespace Buffer

/-- A column leads no further than to the end of the body of its line, unless the line keeps its
break and the column reaches over it: then it leads to the start of the next line. -/
theorem index_within_body_iff {b : Buffer} {l : Nat} {line : List Char}
    (found : (Line.split b.chars)[l]? = some line) (column : Nat) :
    b.lineStart l ≤ b.index ⟨l, column⟩ ∧
      (b.index ⟨l, column⟩ ≤ b.lineStart l + (Line.body line).length ↔
        ¬ (Line.keepsBreak line = true ∧ Line.unitsOf line ≤ column)) ∧
      (Line.keepsBreak line = true ∧ Line.unitsOf line ≤ column →
        l + 1 < (Line.split b.chars).length ∧ b.index ⟨l, column⟩ = b.lineStart (l + 1)) := by
  have bound : l < (Line.split b.chars).length := (List.getElem?_eq_some_iff.mp found).1
  rw [index_on_line found, lineStart_succ found]
  have within := (Line.charsBefore_fits column (Line.content line)).1
  obtain ⟨stripped, keeps⟩ | ⟨whole, size, keeps, next⟩ := Line.content_cases found
  · rw [stripped] at within ⊢
    simp [keeps, within]
  · have reaches : line.length ≤ Line.charsBefore column line ↔ Line.unitsOf line ≤ column := by
      simp [Line.le_charsBefore_iff]
    rw [whole] at within ⊢
    simp only [keeps, true_and, ← reaches]
    omega

theorem index_within_body_iff_tab :
    let b := ofText "a\x0bb\r\nc"
    (Line.split b.chars)[0]? = some ['a', '\x0b'] ∧ b.index ⟨0, 2⟩ = b.lineStart 1 ∧
      (Line.split b.chars)[1]? = some ['b', '\r', '\n'] ∧
      b.index ⟨1, 99⟩ ≤ b.lineStart 1 + (Line.body ['b', '\r', '\n']).length := by
  intro b
  have tab : (Line.split b.chars)[0]? = some ['a', '\x0b'] := by decide
  have pair : (Line.split b.chars)[1]? = some ['b', '\r', '\n'] := by decide
  have crossed := (index_within_body_iff tab 2).2.2 (by decide)
  have clamped := (index_within_body_iff pair 99).2.1.mpr (by decide)
  exact ⟨tab, crossed.2, pair, clamped⟩

/-- Behind a lone carriage return a column leads to the first character of the next line. -/
theorem index_behind_carriage_return :
    let b := ofText "a\rb"
    (Line.split b.chars)[0]? = some ['a', '\r'] ∧
      ¬ b.index ⟨0, 5⟩ ≤ b.lineStart 0 + (Line.body ['a', '\r']).length ∧
      b.index ⟨0, 5⟩ = b.lineStart 1 := by
  decide

end Buffer

end NoxAssist
