import Mathlib.Data.Nat.Find
import Mathlib.Data.Prod.Lex
import Mathlib.Order.MinMax
import NoxAssist.Proofs.Buffer.Ending
import NoxAssist.Proofs.Text.Bytes

namespace NoxAssist

namespace Position

def key (p : Position) : ℕ ×ₗ ℕ :=
  toLex (p.line, p.character)

theorem key_injective : Function.Injective key := by
  rintro ⟨line, character⟩ ⟨line', character'⟩ same
  simpa [key] using same

instance : LinearOrder Position :=
  LinearOrder.lift' key key_injective

theorem le_iff {p q : Position} :
    p ≤ q ↔ p.line < q.line ∨ p.line = q.line ∧ p.character ≤ q.character :=
  Prod.Lex.toLex_le_toLex

end Position

namespace Buffer

variable {b : Buffer} {i : Nat} {line : List Char}

theorem index_of_length_le {p : Position} (behind : (Line.split b.chars).length ≤ p.line) :
    b.index p = b.chars.length := by
  simp [index, List.getElem?_eq_none behind]

theorem index_bounds (b : Buffer) (p : Position) :
    b.lineStart p.line ≤ b.index p ∧ b.index p ≤ b.lineStart (p.line + 1) := by
  cases found : (Line.split b.chars)[p.line]? with
  | none =>
    have behind := List.getElem?_eq_none_iff.mp found
    rw [index_of_length_le behind, lineStart_of_length_le behind,
      lineStart_of_length_le (Nat.le_succ_of_le behind)]
    simp
  | some line =>
    have within := (Line.charsBefore_fits p.character (Line.content line)).1
    have size := Line.length_content_le line
    rw [index_on_line found, lineStart_succ found]
    omega

theorem index_le_length (b : Buffer) (p : Position) : b.index p ≤ b.chars.length :=
  (b.index_bounds p).2.trans (b.lineStart_le _)

theorem index_mono (b : Buffer) : Monotone b.index := by
  intro p q le
  obtain earlier | ⟨same, within⟩ := Position.le_iff.mp le
  · calc
      b.index p ≤ b.lineStart (p.line + 1) := (b.index_bounds p).2
      _ ≤ b.lineStart q.line := b.lineStart_mono earlier
      _ ≤ b.index q := (b.index_bounds q).1
  · cases found : (Line.split b.chars)[p.line]? with
    | none =>
      have behind := List.getElem?_eq_none_iff.mp found
      rw [index_of_length_le behind, index_of_length_le (same ▸ behind)]
    | some line =>
      rw [index_on_line found, index_on_line (same ▸ found), ← same]
      exact Nat.add_le_add_left (Line.charsBefore_mono within) _

theorem byteOffset_mono (b : Buffer) : Monotone b.byteOffset := by
  intro p q le
  exact Text.width_take_le b.chars (b.index_mono le)

theorem byteOffset_le (b : Buffer) (p : Position) : b.byteOffset p ≤ b.text.utf8ByteSize := by
  rw [text, ← Text.width_eq_utf8ByteSize, ← b.chars.take_length]
  exact Text.width_take_le b.chars (b.index_le_length p)

/-- Positions lead to places in their order, and an edit replaces what lies between the place of the
smaller end of its range and that of the larger one, whichever comes first. -/
theorem edits_follow_order (b : Buffer) :
    (∀ p q : Position, p ≤ q →
      b.index p ≤ b.index q ∧ b.index q ≤ b.chars.length ∧
      b.byteOffset p ≤ b.byteOffset q ∧ b.byteOffset q ≤ b.text.utf8ByteSize) ∧
    ∀ (range : Range) (text : String),
      let s := b.index (min range.start range.stop)
      let e := b.index (max range.start range.stop)
      s ≤ e ∧
      (b.apply (.edit range text)).chars = b.chars.take s ++ text.toList ++ b.chars.drop e ∧
      b.apply (.edit ⟨range.stop, range.start⟩ text) = b.apply (.edit range text) ∧
      (b.index range.stop < b.index range.start → range.stop < range.start) := by
  constructor
  · intro p q le
    exact ⟨b.index_mono le, b.index_le_length q, b.byteOffset_mono le, b.byteOffset_le q⟩
  · intro range text s e
    refine ⟨b.index_mono min_le_max, ?_, ?_, b.index_mono.reflect_lt⟩
    · rw [apply, chars_splice, ← b.index_mono.map_min, ← b.index_mono.map_max]
    · rw [apply, apply, min_comm, max_comm]

theorem edits_follow_order_backward :
    let b := ofText "a😀\r\nb"
    b.index ⟨0, 2⟩ ≤ b.index ⟨7, 0⟩ ∧ b.index ⟨7, 0⟩ ≤ 5 ∧
      (b.apply (.edit ⟨⟨7, 0⟩, ⟨0, 2⟩⟩ "x")).chars = ['a', 'x'] ∧
      (⟨0, 2⟩ : Position) < ⟨7, 0⟩ := by
  intro b
  have le : (⟨0, 2⟩ : Position) ≤ ⟨7, 0⟩ := Position.le_iff.mpr (by decide)
  obtain ⟨ordered, edited⟩ := edits_follow_order b
  obtain ⟨-, spliced, -, back⟩ := edited ⟨⟨7, 0⟩, ⟨0, 2⟩⟩ "x"
  rw [min_eq_right le, max_eq_left le] at spliced
  exact ⟨(ordered _ _ le).1, (ordered _ _ le).2.1, spliced, back (by decide)⟩

def IsPlace (b : Buffer) (i : Nat) : Prop :=
  i ≤ b.chars.length ∧ Line.Whole (b.chars.take i) (b.chars.drop i)

def lineOf (b : Buffer) (i : Nat) : Nat :=
  Nat.findGreatest (fun l => b.lineStart l ≤ i) ((Line.split b.chars).length - 1)

def position (b : Buffer) (i : Nat) : Position :=
  ⟨b.lineOf i, Line.unitsOf ((b.chars.take i).drop (b.lineStart (b.lineOf i)))⟩

theorem lineStart_lineOf_le (b : Buffer) (i : Nat) : b.lineStart (b.lineOf i) ≤ i :=
  Nat.findGreatest_spec (P := fun l => b.lineStart l ≤ i) (Nat.zero_le _) (Nat.zero_le i)

theorem lineOf_lt (b : Buffer) (i : Nat) : b.lineOf i < (Line.split b.chars).length := by
  have lines := List.length_pos_iff.mpr (Line.split_ne_nil b.chars)
  have le : b.lineOf i ≤ (Line.split b.chars).length - 1 := Nat.findGreatest_le _
  omega

theorem lt_lineStart_succ (next : b.lineOf i + 1 < (Line.split b.chars).length) :
    i < b.lineStart (b.lineOf i + 1) := by
  refine Nat.lt_of_not_le fun begins => Nat.not_succ_le_self (b.lineOf i) ?_
  exact Nat.le_findGreatest (P := fun l => b.lineStart l ≤ i) (Nat.le_pred_of_lt next) begins

theorem not_isPlace_pair {l : Nat} {front : List Char}
    (found : (Line.split b.chars)[l]? = some (front ++ ['\r', '\n'])) :
    ¬ b.IsPlace (b.lineStart l + (front.length + 1)) := by
  rintro ⟨-, whole⟩
  rw [List.take_add, ← List.drop_drop, drop_lineStart found] at whole
  simp [Line.Whole, List.take_append, List.drop_append] at whole

theorem IsPlace.le_body (place : b.IsPlace i)
    (found : (Line.split b.chars)[b.lineOf i]? = some line) :
    i ≤ b.lineStart (b.lineOf i) + (Line.body line).length := by
  have stop := lineStart_succ found
  obtain ⟨front, ending, plain, ends, rfl, last⟩ := Line.split_shape found
  rw [Line.body_append plain ends]
  cases ending with
  | nil =>
    -- The last line has no break, and the text ends with it.
    rw [lineStart_of_length_le (Nat.le_of_eq (last.mp rfl).symm), List.append_nil] at stop
    exact stop ▸ place.1
  | cons c rest =>
    have next : b.lineOf i + 1 < (Line.split b.chars).length :=
      Nat.lt_of_le_of_ne (b.lineOf_lt i) fun same => nomatch last.mpr same
    have inside := lt_lineStart_succ next
    rw [stop, List.length_append] at inside
    cases ends with
    | pair =>
      have between : i ≠ b.lineStart (b.lineOf i) + (front.length + 1) := by
        intro same
        rw [same] at place
        exact not_isPlace_pair found place
      simp only [List.length_cons, List.length_nil] at inside
      omega
    | single breaks =>
      rw [List.length_singleton] at inside
      omega

theorem IsPlace.index_position (place : b.IsPlace i) : b.index (b.position i) = i := by
  obtain ⟨line, found⟩ : ∃ line, (Line.split b.chars)[b.lineOf i]? = some line :=
    ⟨_, List.getElem?_eq_getElem (b.lineOf_lt i)⟩
  have start := b.lineStart_lineOf_le i
  have stop := place.le_body found
  have kept := Line.length_body_le_content found
  have size := Line.length_content_le line
  have before : (b.chars.take i).drop (b.lineStart (b.lineOf i)) =
      (Line.content line).take (i - b.lineStart (b.lineOf i)) := by
    rw [List.drop_take, drop_lineStart found, List.take_append_of_le_length (by omega),
      Line.take_content (by omega)]
  rw [position, before, index_on_line found, Line.charsBefore_unitsOf_take (by omega)]
  omega

/-- The position of a place leads back to it, in characters and in bytes, and so an edit between the
positions of two places replaces what lies between the places. -/
theorem position_round_trip (b : Buffer) :
    (∀ i, b.IsPlace i → b.index (b.position i) = i ∧
      b.byteOffset (b.position i) = (String.ofList (b.chars.take i)).utf8ByteSize) ∧
    ∀ (i j : Nat) (text : String), b.IsPlace i → b.IsPlace j → i ≤ j →
      (b.apply (.edit ⟨b.position i, b.position j⟩ text)).chars =
        b.chars.take i ++ text.toList ++ b.chars.drop j := by
  constructor
  · intro i place
    have back := place.index_position
    exact ⟨back, by rw [byteOffset, back, Text.width_eq_utf8ByteSize]⟩
  · intro i j text first last le
    rw [apply, first.index_position, last.index_position, chars_splice, Nat.min_eq_left le,
      Nat.max_eq_right le]

theorem position_round_trip_breaks :
    let b : Buffer := ⟨["é\r".toList, "\n😀\x0bx\u2028y".toList]⟩
    b.IsPlace 4 ∧ b.IsPlace 6 ∧ b.index ⟨1, 2⟩ = 4 ∧ b.byteOffset ⟨1, 2⟩ = 8 ∧
      (b.apply (.edit ⟨⟨1, 2⟩, ⟨2, 1⟩⟩ "w")).chars = "é\r\n😀w\u2028y".toList := by
  intro b
  have first : b.IsPlace 4 := ⟨by decide, by decide⟩
  have last : b.IsPlace 6 := ⟨by decide, by decide⟩
  have start : b.position 4 = ⟨1, 2⟩ := by decide
  have stop : b.position 6 = ⟨2, 1⟩ := by decide
  obtain ⟨back, edited⟩ := position_round_trip b
  have spliced := edited 4 6 "w" first last (by decide)
  rw [start, stop] at spliced
  exact ⟨first, last, start ▸ (back 4 first).1, start ▸ (back 4 first).2, spliced⟩

end Buffer

end NoxAssist
