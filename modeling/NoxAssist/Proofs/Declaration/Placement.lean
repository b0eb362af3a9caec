import NoxAssist.Proofs.Declaration.Pieces
import NoxAssist.Proofs.Text.Bytes

namespace NoxAssist.Declaration
open Text

structure Placed where
  start : Nat
  chars : List Char

/-- The parameters among pieces between commas, of which the first begins at byte `position`. -/
def placed (position : Nat) : List (List Char) → List Placed
  | [] => []
  | piece :: pieces =>
    let others := placed (position + width piece + 1) pieces
    if (trim piece).isEmpty then
      others
    else
      ⟨position + width (piece.takeWhile isBlank), trim piece⟩ :: others

theorem placed_blank {piece : List Char} (blank : trim piece = []) (position : Nat)
    (pieces : List (List Char)) :
    placed position (piece :: pieces) = placed (position + width piece + 1) pieces := by
  simp [placed, blank]

theorem placed_cons {piece : List Char} (kept : trim piece ≠ []) (position : Nat)
    (pieces : List (List Char)) :
    placed position (piece :: pieces) =
      ⟨position + width (piece.takeWhile isBlank), trim piece⟩ ::
        placed (position + width piece + 1) pieces := by
  simp [placed, kept]

theorem map_placed (position : Nat) (list : List Char) :
    (placed position (list.splitOn ',')).map (String.ofList ·.chars) = splitParameters list := by
  unfold splitParameters
  generalize list.splitOn ',' = pieces
  induction pieces generalizing position with
  | nil => rfl
  | cons piece pieces ih =>
    by_cases blank : trim piece = []
    · rw [placed_blank blank, ih]
      simp [blank]
    · rw [placed_cons blank, List.map_cons, ih]
      simp [blank]

theorem placed_split {pieces : List (List Char)} (single : ∀ piece ∈ pieces, ',' ∉ piece)
    (kept : ∀ piece ∈ pieces.dropLast, trim piece ≠ []) {position i : Nat} {p : Placed}
    (here : (placed position pieces)[i]? = some p) :
    ∃ front back, [','].intercalate pieces = front ++ (p.chars ++ back) ∧
      p.start = position + width front ∧ front.count ',' = i ∧ ',' ∉ p.chars := by
  induction pieces generalizing position i with
  | nil => cases here
  | cons piece pieces ih =>
    obtain ⟨free, others⟩ := List.forall_mem_cons.mp single
    by_cases blank : trim piece = []
    · -- a blank piece is the last one, and then there is no parameter left
      cases pieces with
      | nil =>
        rw [placed_blank blank] at here
        cases here
      | cons second pieces => exact absurd blank (kept piece List.mem_cons_self)
    rw [placed_cons blank] at here
    cases i with
    | zero =>
      obtain rfl := Option.some.inj here
      obtain ⟨trail, -, split⟩ := trim_split piece
      obtain ⟨more, whole⟩ : ∃ more, [','].intercalate (piece :: pieces) = piece ++ more := by
        cases pieces with
        | nil => exact ⟨[], by simp⟩
        | cons second pieces => exact ⟨_, by rw [List.intercalate_cons_cons, List.append_assoc]⟩
      refine ⟨piece.takeWhile isBlank, trail ++ more, ?_, rfl, ?_,
        fun comma => free (mem_of_mem_trim comma)⟩
      · rw [whole]
        conv_lhs => rw [split]
        simp
      · exact List.count_eq_zero_of_not_mem fun comma => free ((List.takeWhile_prefix _).subset comma)
    | succ i =>
      have nonempty : pieces ≠ [] := by
        rintro rfl
        cases here
      rw [List.dropLast_cons_of_ne_nil nonempty] at kept
      obtain ⟨front, back, split, start, number, plain⟩ :=
        ih others (List.forall_mem_cons.mp kept).2 here
      refine ⟨piece ++ ',' :: front, back, ?_, ?_, ?_, plain⟩
      · rw [List.intercalate_cons_of_ne_nil nonempty, split]
        simp
      · have byte : Char.utf8Size ',' = 1 := rfl
        rw [start, width_append, width_cons, byte]
        omega
      · rw [List.count_append, List.count_eq_zero_of_not_mem free, List.count_cons_self, number,
          Nat.zero_add]

end NoxAssist.Declaration
