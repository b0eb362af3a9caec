import NoxAssist.Proofs.Analysis.Hover
import NoxAssist.Proofs.Call.Arguments
import NoxAssist.Proofs.Text.CharBoundary

namespace NoxAssist
open Text

namespace Call

theorem locateAtCursor_eq (text : String) (cursor : Nat) :
    locateAtCursor text cursor =
      locateBehind (inLiteral (before text cursor)) 0 0 (before text cursor) := by
  cases cursor with
  | zero => rfl
  | succ offset => rfl

theorem locateBehind_wide {run : List UInt8} (wide : ∀ b ∈ run, 128 ≤ b.toNat) (inside : Bool)
    (depth commas : Nat) (behind : List UInt8) :
    locateBehind inside depth commas (run ++ behind) = locateBehind inside depth commas behind := by
  induction run with
  | nil => rfl
  | cons b run ih =>
    have above := wide b List.mem_cons_self
    have rest := ih fun x member => wide x (List.mem_cons_of_mem _ member)
    cases inside with
    | true =>
      have noNewline : b ≠ newline := ne_of_wide above (by decide)
      have noQuote : b ≠ quote := ne_of_wide above (by decide)
      have stays : leavesLiteral b (run ++ behind) = false := by
        simp [leavesLiteral, noNewline, noQuote]
      rw [List.cons_append, locateBehind_inside stays, rest]
    | false =>
      have ascii : ∀ x ∈ [quote, semicolon, openParen, closeParen, comma], x.toNat < 128 :=
        List.all_iff_forall_prop.mp (by decide)
      have free : b ∉ [quote, semicolon, openParen, closeParen, comma] :=
        fun member => ne_of_wide above (ascii b member) rfl
      rw [List.cons_append, locateBehind_code free, rest]

theorem locateAtCursor_floorBoundary (text : String) (cursor : Nat) :
    locateAtCursor text (floorBoundary text cursor) = locateAtCursor text cursor := by
  obtain ⟨run, view, wide⟩ := before_floorBoundary text cursor
  have plain : ∀ b ∈ run, b ≠ newline ∧ b ≠ quote := fun b member =>
    ⟨ne_of_wide (wide b member) (by decide), ne_of_wide (wide b member) (by decide)⟩
  rw [locateAtCursor_eq, locateAtCursor_eq, view, inLiteral_plain plain, locateBehind_wide wide]

end Call

namespace Analyzer

theorem identAt_of_insideChar {text : String} {cursor i : Nat} (inside : InsideChar text cursor)
    (near : i = cursor ∨ i + 1 = cursor) : identAt text i = false := by
  rw [identAt]
  cases here : (bytes text)[i]? with
  | none => rfl
  | some b =>
    have above := inside.wide near here
    rw [Option.any_some, Bool.eq_false_iff]
    intro ident
    have below := toNat_lt_of_isIdentByte ident
    omega

theorem hover_insideChar (a : Analyzer) {text : String} {cursor : Nat}
    (inside : InsideChar text cursor) : a.hover text cursor = none := by
  apply hover_apart
  rw [Nat.min_eq_left inside.lt_utf8ByteSize.le]
  rintro start stop run ⟨above, below⟩
  -- a run that touches the cursor has a byte right before it or right behind it
  rcases Nat.lt_or_ge start cursor with before | from_here
  · have ident := run.ident (cursor - 1) (by omega) (by omega)
    rw [identAt_of_insideChar inside (by omega)] at ident
    cases ident
  · have ident := run.ident cursor above (from_here.trans_lt run.nonempty)
    rw [identAt_of_insideChar inside (by omega)] at ident
    cases ident

/-- A cursor finds the call and the signature of the character boundary below it, and inside of a
character it shows no hover. -/
theorem cursor_inside_char (a : Analyzer) (text : String) (cursor : Nat) :
    IsGreatest {b | IsBoundary text b ∧ b ≤ min cursor text.utf8ByteSize}
        (floorBoundary text cursor) ∧
      Call.locateAtCursor text cursor = Call.locateAtCursor text (floorBoundary text cursor) ∧
      a.signatureHelp text cursor = a.signatureHelp text (floorBoundary text cursor) ∧
      (InsideChar text cursor → a.hover text cursor = none) := by
  have located := (Call.locateAtCursor_floorBoundary text cursor).symm
  refine ⟨isGreatest_floorBoundary text cursor, located, ?_, a.hover_insideChar⟩
  rw [signatureHelp, located, ← signatureHelp]

theorem cursor_inside_char_umlaut :
    let a : Analyzer := ⟨.empty, [], Settings.default⟩
    let text := "int go (int a)\ngo(1, ü"
    InsideChar text 22 ∧ ¬ IsBoundary text 22 ∧ IsBoundary text 21 ∧
      Call.locateAtCursor text 22 = some ⟨"go", 1⟩ ∧
      a.signatureHelp text 22 = some ⟨⟨"int go (int a)", none, ["int a"]⟩, 0⟩ ∧
      a.hover text 22 = none ∧
      a.signatureHelp text 18446744073709551615 = a.signatureHelp text 23 := by
  intro a text
  have inside : InsideChar text 22 :=
    ⟨"int go (int a)\ngo(1, ".toList, 'ü', [], by decide, by decide, by decide⟩
  have floor : floorBoundary text 22 = 21 := by decide
  have floor' : floorBoundary text 18446744073709551615 = 23 := by decide
  obtain ⟨⟨⟨boundary, -⟩, -⟩, located, shown, hidden⟩ := cursor_inside_char a text 22
  obtain ⟨-, -, shown', -⟩ := cursor_inside_char a text 18446744073709551615
  rw [floor] at located shown boundary
  rw [floor'] at shown'
  have call : Call.locateAtCursor text 21 = some ⟨"go", 1⟩ := by decide
  have signature : a.signatureOf text "go" = some ⟨"int go (int a)", none, ["int a"]⟩ := by
    have found : Declaration.find? text "go" = some ⟨"int", "go", ["int a"]⟩ := by decide +kernel
    have unknown : a.registry.get? "go" = none := by simp [a, Registry.get?, Registry.empty]
    rw [signatureOf, unknown, found]
    decide
  have help : a.signatureHelp text 21 = some ⟨⟨"int go (int a)", none, ["int a"]⟩, 0⟩ := by
    rw [signatureHelp, call]
    simp only [Option.bind_eq_bind, Option.bind_some, signature]
    rfl
  exact ⟨inside, by decide, boundary, located.trans call, shown.trans help, hidden inside, shown'⟩

end Analyzer

end NoxAssist
