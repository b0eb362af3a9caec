import NoxAssist.Analysis
import NoxAssist.Proofs.Text.Identifier
import NoxAssist.Proofs.Text.Literal

namespace NoxAssist.Analyzer
open Text

theorem nameAt_eq (text : String) (cursor : Nat) :
    nameAt text cursor =
      if inLiteral (before text cursor) then "" else identifierAround text cursor := by
  cases cursor with
  | zero => rfl
  | succ offset => rfl

theorem nameAt_min (text : String) (cursor : Nat) :
    nameAt text cursor = nameAt text (min cursor text.utf8ByteSize) := by
  rw [nameAt_eq, nameAt_eq, identifierAround, before_min, after_min, ← identifierAround]

theorem hover_min (a : Analyzer) (text : String) (cursor : Nat) :
    a.hover text cursor = a.hover text (min cursor text.utf8ByteSize) := by
  rw [hover, nameAt_min, ← hover]

section Run
variable {text : String} {start stop : Nat} (run : IsRun text start stop)
include run

theorem inLiteral_along_run {cursor : Nat} (above : start ≤ cursor) (below : cursor ≤ stop) :
    inLiteral (before text cursor) = inLiteral (before text start) := by
  rw [before_eq_between text above]
  refine inLiteral_plain fun b member => ?_
  have ident := run.isIdentByte_of_mem (Nat.le_refl start) below b (List.mem_reverse.mp member)
  constructor
  · rintro rfl
    exact absurd ident (by decide)
  · rintro rfl
    exact absurd ident (by decide)

theorem hover_along_run (a : Analyzer) {cursor : Nat} (above : start ≤ cursor)
    (below : cursor ≤ stop) :
    a.hover text cursor =
      if inStringAt text start then none else a.hoverOf text (ofAscii (between text start stop)) := by
  have name := run.identifierAround above below
  have here := inLiteral_along_run run above below
  have first := inLiteral_along_run run (Nat.le_succ start) run.nonempty
  have named : (ofAscii (between text start stop)).isEmpty = false := by
    simp [ofAscii, run.between_ne_nil]
  rw [inStringAt_eq_inLiteral, first, ← here, hover, nameAt_eq, name]
  cases inLiteral (before text cursor) with
  | true => rfl
  | false => simp [named]

end Run

theorem hover_apart (a : Analyzer) {text : String} {cursor : Nat}
    (apart : ∀ start stop, IsRun text start stop →
      ¬ (start ≤ min cursor text.utf8ByteSize ∧ min cursor text.utf8ByteSize ≤ stop)) :
    a.hover text cursor = none := by
  have bound : min cursor text.utf8ByteSize ≤ (bytes text).length := by
    rw [length_bytes]
    exact Nat.min_le_right _ _
  have nothing : nameAt text (min cursor text.utf8ByteSize) = "" := by
    rw [nameAt_eq, identifierAround_of_apart bound apart, ite_self]
  rw [hover_min, hover, nothing]
  rfl

/-- Every cursor in an identifier or at one of its ends shows the same hover, every cursor that
touches none shows nothing, and a cursor behind the text stands at its end. -/
theorem hover_along_identifier (a : Analyzer) (text : String) :
    (∀ start stop, IsRun text start stop → ∀ c₁ c₂, start ≤ c₁ → c₁ ≤ stop → start ≤ c₂ → c₂ ≤ stop →
      a.hover text c₁ = a.hover text c₂ ∧
        a.hover text c₁ = if inStringAt text start then none
          else a.hoverOf text (ofAscii (between text start stop))) ∧
    (∀ cursor, (∀ start stop, IsRun text start stop →
        ¬ (start ≤ min cursor text.utf8ByteSize ∧ min cursor text.utf8ByteSize ≤ stop)) →
      a.hover text cursor = none) ∧
    ∀ cursor, text.utf8ByteSize ≤ cursor →
      a.hover text cursor = a.hover text text.utf8ByteSize := by
  refine ⟨?_, fun cursor => hover_apart a, ?_⟩
  · intro start stop run c₁ c₂ above₁ below₁ above₂ below₂
    have shown := hover_along_run run a above₁ below₁
    exact ⟨shown.trans (hover_along_run run a above₂ below₂).symm, shown⟩
  · intro cursor past
    rw [hover_min, Nat.min_eq_right past]

theorem hover_along_identifier_quoted :
    let a : Analyzer := ⟨.empty, [], Settings.default⟩
    let text := "go \"go\"\nint go ()"
    IsRun text 0 2 ∧ a.hover text 0 = a.hover text 2 ∧ a.hover text 0 = some ⟨"int go ()", none⟩ ∧
      IsRun text 4 6 ∧ a.hover text 4 = a.hover text 6 ∧ a.hover text 4 = none ∧
      a.hover text 16 = none ∧ a.hover text 18446744073709551615 = a.hover text 17 := by
  intro a text
  obtain ⟨along, apart, behind⟩ := hover_along_identifier a text
  have called : IsRun text 0 2 := ⟨by decide, by decide, by decide, by decide⟩
  have quoted : IsRun text 4 6 := ⟨by decide, by decide, by decide, by decide⟩
  have parentheses : ∀ start stop, IsRun text start stop →
      ¬ (start ≤ min 16 text.utf8ByteSize ∧ min 16 text.utf8ByteSize ≤ stop) := by
    have place : min 16 text.utf8ByteSize = 16 := by decide
    rintro start stop run ⟨above, below⟩
    rw [place] at above below
    rcases Nat.lt_or_ge start 16 with before | behind
    · exact absurd (run.ident 15 (by omega) (by omega)) (by decide)
    · exact absurd (run.ident 16 above (behind.trans_lt run.nonempty)) (by decide)
  have declared : a.hoverOf text "go" = some ⟨"int go ()", none⟩ := by
    have found : Declaration.find? text "go" = some ⟨"int", "go", []⟩ := by decide +kernel
    have unknown : a.registry.get? "go" = none := by simp [a, Registry.get?, Registry.empty]
    rw [hoverOf, unknown, found]
    decide
  have outside : inStringAt text 0 = false := by decide
  have inside : inStringAt text 4 = true := by decide
  have name : ofAscii (between text 0 2) = "go" := by decide
  obtain ⟨same, shown⟩ := along 0 2 called 0 2 (by decide) (by decide) (by decide) (by decide)
  obtain ⟨same', hidden⟩ := along 4 6 quoted 4 6 (by decide) (by decide) (by decide) (by decide)
  rw [outside, name, declared] at shown
  rw [inside] at hidden
  exact ⟨called, same, shown, quoted, same', hidden, apart 16 parentheses, behind _ (by decide)⟩

end NoxAssist.Analyzer
