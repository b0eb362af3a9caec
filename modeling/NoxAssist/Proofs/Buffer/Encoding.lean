import NoxAssist.Proofs.Buffer.Offset

/-!
# Positions that an editor sends

An editor ends a line at a carriage return, a line feed or both, and names a character by the lines
and UTF-16 units before it. A buffer knows more breaks. Behind such a *stray* break the line and
column of the editor lie too early in the buffer, except right behind it, where the column still
reaches over the break: `landing_eq_length_iff` says so for every place of every text.
-/

namespace NoxAssist

namespace Position

def origin : Position :=
  ⟨0, 0⟩

def after (breaks : Char → Bool) : Position → List Char → Position
  | p, [] => p
  | p, '\r' :: '\n' :: chars => after breaks ⟨p.line + 1, 0⟩ chars
  | p, c :: chars =>
    after breaks (if breaks c then ⟨p.line + 1, 0⟩ else ⟨p.line, p.character + Line.units c⟩) chars

def shift (p q : Position) : Position :=
  if q.line = 0 then ⟨p.line, p.character + q.character⟩ else ⟨p.line + q.line, q.character⟩

theorem shift_shift (p q r : Position) : (p.shift q).shift r = p.shift (q.shift r) := by
  unfold shift
  by_cases last : r.line = 0
  · by_cases middle : q.line = 0
    · simp [last, middle, Nat.add_assoc]
    · simp [last, middle]
  · by_cases middle : q.line = 0
    · simp [last, middle]
    · simp [last, middle, Nat.add_assoc]

theorem origin_shift (p : Position) : origin.shift p = p := by
  unfold shift
  split
  · rename_i first
    rw [origin, Nat.zero_add, ← first]
  · rw [origin, Nat.zero_add]

theorem shift_line (p : Position) : shift ⟨1, 0⟩ p = ⟨p.line + 1, p.character⟩ := by
  unfold shift
  split
  · rename_i first
    rw [first, Nat.zero_add, Nat.zero_add]
  · rw [Nat.add_comm]

theorem shift_units (n : Nat) (p : Position) :
    shift ⟨0, n⟩ p = if p.line = 0 then ⟨0, n + p.character⟩ else p := by
  unfold shift
  rw [Nat.zero_add]

theorem after_cons {breaks : Char → Bool} {c : Char} {chars : List Char}
    (single : Line.Single c chars) (p : Position) :
    after breaks p (c :: chars) =
      after breaks (p.shift (if breaks c then ⟨1, 0⟩ else ⟨0, Line.units c⟩)) chars := by
  rw [after]
  · cases breaks c <;> rfl
  · rintro rest rfl rfl
    exact single rfl rfl

theorem after_eq_shift (breaks : Char → Bool) (p : Position) (chars : List Char) :
    after breaks p chars = p.shift (after breaks origin chars) := by
  induction chars using Line.reading_induction generalizing p with
  | nil => rfl
  | pair chars ih =>
    rw [after, after, ih ⟨p.line + 1, 0⟩, ih ⟨origin.line + 1, 0⟩, ← shift_shift]
    rfl
  | cons c chars single ih =>
    rw [after_cons single, after_cons single, ih, ih (origin.shift _), ← shift_shift, ← shift_shift]
    congr 2

end Position

namespace Line

def isEditorBreak (c : Char) : Bool :=
  c == '\n' || c == '\r'

/-- A break of the buffer that an editor takes for a character of the line. -/
def isStray (c : Char) : Bool :=
  isBreak c && !isEditorBreak c

def editorPosition (front : List Char) : Position :=
  Position.after isEditorBreak Position.origin front

theorem isBreak_of_isEditorBreak {c : Char} (breaks : isEditorBreak c = true) :
    isBreak c = true := by
  rcases (by simpa [isEditorBreak] using breaks : c = '\n' ∨ c = '\r') with rfl | rfl <;> decide

theorem editorPosition_pair (chars : List Char) :
    editorPosition ('\r' :: '\n' :: chars) =
      ⟨(editorPosition chars).line + 1, (editorPosition chars).character⟩ := by
  rw [editorPosition, Position.after, Position.after_eq_shift]
  exact Position.shift_line _

theorem editorPosition_break {c : Char} {chars : List Char} (single : Single c chars)
    (breaks : isEditorBreak c = true) :
    editorPosition (c :: chars) =
      ⟨(editorPosition chars).line + 1, (editorPosition chars).character⟩ := by
  rw [editorPosition, Position.after_cons single, if_pos breaks, Position.origin_shift,
    Position.after_eq_shift]
  exact Position.shift_line _

theorem editorPosition_cons {c : Char} {chars : List Char} (single : Single c chars)
    (other : isEditorBreak c = false) :
    editorPosition (c :: chars) =
      if (editorPosition chars).line = 0 then ⟨0, units c + (editorPosition chars).character⟩
      else editorPosition chars := by
  rw [editorPosition, Position.after_cons single, other, Position.origin_shift,
    Position.after_eq_shift]
  exact Position.shift_units _ _

/-- The place between two parts of a text is not inside a break. -/
def Whole (front rest : List Char) : Prop :=
  front.getLast? = some '\r' → rest.head? ≠ some '\n'

instance (front rest : List Char) : Decidable (Whole front rest) :=
  inferInstanceAs (Decidable (front.getLast? = some '\r' → rest.head? ≠ some '\n'))

theorem Whole.tail {c : Char} {front rest : List Char} (whole : Whole (c :: front) rest) :
    Whole front rest := by
  intro last
  refine whole ?_
  rw [List.getLast?_cons, last, Option.getD_some]

theorem Whole.single {c : Char} {front rest : List Char} (whole : Whole (c :: front) rest)
    (single : Single c front) : Single c (front ++ rest) := by
  rintro rfl
  cases front with
  | nil => exact whole rfl
  | cons d front => exact single rfl

theorem units_pos (c : Char) : 0 < units c := by
  unfold units
  split <;> decide

theorem offset_zero_zero (chars : List Char) : offset chars 0 0 = 0 := by
  cases chars using reading_induction with
  | nil => rfl
  | pair chars _ => rfl
  | cons c chars single _ =>
    have wide : ¬ units c ≤ 0 := Nat.not_le.mpr (units_pos c)
    rw [offset_cons_zero single, if_neg wide, ite_self]

theorem offset_break_lt {c : Char} {front rest : List Char} (single : Single c (front ++ rest))
    (breaks : isBreak c = true) {column : Nat} (within : column ≤ (editorPosition front).character) :
    offset (c :: (front ++ rest)) 0 column < front.length + 1 := by
  rw [offset_cons_zero single, units_of_isBreak breaks, if_pos breaks]
  split
  · exact Nat.zero_lt_succ _
  · split
    · rename_i reaches
      cases front with
      | nil => exact absurd (Nat.le_trans reaches within) (Nat.not_succ_le_zero 0)
      | cons d front => exact Nat.succ_lt_succ (Nat.zero_lt_succ _)
    · exact Nat.zero_lt_succ _

theorem offset_lt_length {front rest : List Char} (whole : Whole front rest) {line column : Nat}
    (earlier : line < (editorPosition front).line)
    (within : column ≤ (editorPosition front).character) :
    offset (front ++ rest) line column < front.length := by
  induction front using reading_induction generalizing line column with
  | nil => exact absurd earlier (Nat.not_lt_zero line)
  | pair front ih =>
    rw [editorPosition_pair] at earlier within
    cases line with
    | zero => exact Nat.zero_lt_succ _
    | succ line =>
      have before := ih whole.tail.tail (Nat.lt_of_succ_lt_succ earlier) within
      exact Nat.add_lt_add_right before 2
  | cons c front single ih =>
    have alone := whole.single single
    rw [List.cons_append, List.length_cons]
    cases breaks : isEditorBreak c with
    | true =>
      have isBreak := isBreak_of_isEditorBreak breaks
      rw [editorPosition_break single breaks] at earlier within
      cases line with
      | zero => exact offset_break_lt alone isBreak within
      | succ line =>
        rw [offset_cons_succ alone, if_pos isBreak]
        exact Nat.succ_lt_succ (ih whole.tail (Nat.lt_of_succ_lt_succ earlier) within)
    | false =>
      rw [editorPosition_cons single breaks] at earlier within
      split at earlier
      · exact absurd earlier (Nat.not_lt_zero line)
      · rename_i later
        rw [if_neg later] at within
        cases line with
        | zero =>
          cases stray : isBreak c with
          | true => exact offset_break_lt alone stray within
          | false =>
            rw [offset_cons_zero alone, stray]
            split
            · exact Nat.zero_lt_succ _
            · split
              · exact Nat.succ_lt_succ (ih whole.tail earlier (Nat.sub_le_of_le_add (by omega)))
              · exact Nat.zero_lt_succ _
        | succ line =>
          rw [offset_cons_succ alone]
          split
          · exact Nat.succ_lt_succ (ih whole.tail (Nat.lt_of_succ_lt earlier) within)
          · exact Nat.succ_lt_succ (ih whole.tail earlier within)

def Plain (front : List Char) : Prop :=
  ∀ c ∈ front.dropLast, isStray c = false

instance : DecidablePred Plain := fun front =>
  List.decidableBAll (fun c => isStray c = false) front.dropLast

theorem plain_cons {c : Char} {front : List Char} :
    Plain (c :: front) ↔ (front ≠ [] → isStray c = false) ∧ Plain front := by
  cases front with
  | nil => simp [Plain]
  | cons d front => simp [Plain]

theorem plain_cons_of_not_isStray {c : Char} {front : List Char} (other : isStray c = false) :
    Plain (c :: front) ↔ Plain front := by
  rw [plain_cons]
  exact and_iff_right fun _ => other

/-- Where the position of an editor behind `front` leads in a buffer. -/
def landing (front rest : List Char) : Nat :=
  offset (front ++ rest) (editorPosition front).line (editorPosition front).character

theorem landing_pair (front rest : List Char) :
    landing ('\r' :: '\n' :: front) rest = landing front rest + 2 := by
  rw [landing, editorPosition_pair]
  rfl

theorem landing_cons {c : Char} {front rest : List Char} (single : Single c front)
    (whole : Whole (c :: front) rest) (other : isStray c = false) :
    landing (c :: front) rest = landing front rest + 1 := by
  have alone := whole.single single
  rw [landing, landing, List.cons_append]
  cases breaks : isEditorBreak c with
  | true =>
    rw [editorPosition_break single breaks, offset_cons_succ alone,
      if_pos (isBreak_of_isEditorBreak breaks)]
  | false =>
    have noBreak : isBreak c = false := by
      rwa [isStray, breaks, Bool.not_false, Bool.and_true] at other
    have feed : c ≠ '\n' := ne_of_isBreak noBreak rfl
    rw [editorPosition_cons single breaks]
    cases line : (editorPosition front).line with
    | zero =>
      rw [if_pos rfl, offset_cons_zero alone, if_neg feed, if_pos (Nat.le_add_right _ _), noBreak,
        Nat.add_sub_cancel_left]
      rfl
    | succ n =>
      rw [if_neg (Nat.succ_ne_zero n), line, offset_cons_succ alone, noBreak]
      rfl

theorem landing_stray {c : Char} {front rest : List Char} (single : Single c front)
    (whole : Whole (c :: front) rest) (stray : isStray c = true) :
    front = [] ∧ landing (c :: front) rest = 1 ∨
      front ≠ [] ∧ landing (c :: front) rest < front.length + 1 := by
  have alone := whole.single single
  obtain ⟨isBreak, breaks⟩ : isBreak c = true ∧ isEditorBreak c = false := by
    simpa [isStray] using stray
  have feed : c ≠ '\n' := by
    rintro rfl
    cases breaks
  rw [landing, List.cons_append, editorPosition_cons single breaks]
  cases line : (editorPosition front).line with
  | zero =>
    rw [if_pos rfl, offset_cons_zero alone, if_neg feed, if_pos (Nat.le_add_right _ _),
      if_pos isBreak]
    cases front with
    | nil => exact .inl ⟨rfl, rfl⟩
    | cons d front => exact .inr ⟨List.cons_ne_nil d front, Nat.succ_lt_succ (Nat.zero_lt_succ _)⟩
  | succ n =>
    rw [if_neg (Nat.succ_ne_zero n), line, offset_cons_succ alone, if_pos isBreak]
    refine .inr ⟨?_, Nat.succ_lt_succ (offset_lt_length whole.tail ?_ (Nat.le_refl _))⟩
    · rintro rfl
      cases line
    · rw [line]
      exact Nat.lt_succ_self n

theorem landing_eq_length_iff {front rest : List Char} (whole : Whole front rest) :
    landing front rest ≤ front.length ∧ (landing front rest = front.length ↔ Plain front) := by
  induction front using reading_induction with
  | nil =>
    have start : landing [] rest = 0 := offset_zero_zero rest
    exact ⟨Nat.le_of_eq start, fun _ => nofun, fun _ => start⟩
  | pair front ih =>
    obtain ⟨le, same⟩ := ih whole.tail.tail
    rw [plain_cons_of_not_isStray rfl, plain_cons_of_not_isStray rfl, ← same, landing_pair,
      List.length_cons, List.length_cons]
    omega
  | cons c front single ih =>
    obtain ⟨le, same⟩ := ih whole.tail
    cases stray : isStray c with
    | false =>
      rw [plain_cons_of_not_isStray stray, ← same, landing_cons single whole stray,
        List.length_cons]
      omega
    | true =>
      rw [plain_cons, stray, List.length_cons]
      obtain ⟨rfl, one⟩ | ⟨more, short⟩ := landing_stray single whole stray
      · refine ⟨Nat.le_of_eq one, fun _ => ⟨fun absurd => (absurd rfl).elim, nofun⟩, fun _ => one⟩
      · refine ⟨Nat.le_of_lt short, fun equal => absurd equal (Nat.ne_of_lt short), ?_⟩
        rintro ⟨none, -⟩
        cases none more

end Line

end NoxAssist
