import NoxAssist.Proofs.Call.Walk

/-!
# Statements keep to themselves

A semicolon and a newline stop everything that looks back from behind them. The count of quotes ends
at the newline, a name is cut off there or not found at the semicolon, and the walk to a call leaves an
open literal at the newline and ends at the semicolon. So a call is located in its own statement
(`locate_behind_boundary`).
-/

namespace NoxAssist.Call
open Text

def fenced (near far : List UInt8) : List UInt8 :=
  near ++ newline :: semicolon :: far

section Fenced
variable (near far : List UInt8)

theorem fenced_cons (b : UInt8) : fenced (b :: near) far = b :: fenced near far := rfl

theorem isUnescaped_fenced : isUnescaped (fenced near far) = isUnescaped near := by
  cases near with
  | nil => rfl
  | cons b near => rfl

theorem inLiteral_fenced : inLiteral (fenced near far) = inLiteral near := by
  suffices quotesBehind (fenced near far) = quotesBehind near by
    rw [inLiteral, this, inLiteral]
  induction near with
  | nil => rfl
  | cons b near ih =>
    rw [fenced_cons, quotesBehind, quotesBehind, isUnescaped_fenced, ih]

theorem takeWhile_fenced :
    (fenced near far).takeWhile isIdentByte = near.takeWhile isIdentByte := by
  induction near with
  | nil => rfl
  | cons b near ih => simp [fenced_cons, List.takeWhile_cons, ih]

theorem identifierEnding_fenced : identifierEnding (fenced near far) = identifierEnding near := by
  suffices ((fenced near far).dropWhile isAsciiBlank).takeWhile isIdentByte =
      (near.dropWhile isAsciiBlank).takeWhile isIdentByte by
    rw [identifierEnding, this, identifierEnding]
  induction near with
  | nil =>
    -- the newline is blank and the semicolon belongs to no name
    rfl
  | cons b near ih =>
    by_cases blank : isAsciiBlank b = true
    · simpa [fenced_cons, blank] using ih
    · simpa [fenced_cons, blank] using takeWhile_fenced (b :: near) far

theorem locateBehind_fence (inside : Bool) (depth commas : Nat) :
    locateBehind inside depth commas (newline :: semicolon :: far) = none := by
  cases inside with
  | true => simp [locateBehind, leavesLiteral, newline, semicolon]
  | false => simp [locateBehind, newline, semicolon, quote, openParen, closeParen, comma]

theorem locateBehind_fenced (inside : Bool) (depth commas : Nat) :
    locateBehind inside depth commas (fenced near far) = locateBehind inside depth commas near := by
  induction near generalizing inside depth commas with
  | nil => exact locateBehind_fence far inside depth commas
  | cons b near ih =>
    have sameEnd : ends inside depth b (fenced near far) = ends inside depth b near := by
      rw [ends, identifierEnding_fenced, ends]
    have sameState : nextInside inside b (fenced near far) = nextInside inside b near := by
      rw [nextInside, leavesLiteral, isUnescaped_fenced, nextInside, leavesLiteral]
    rw [fenced_cons, locateBehind_cons, locateBehind_cons, sameEnd, sameState,
      identifierEnding_fenced, ih]

end Fenced

theorem before_behind_boundary (earlier statement later : String) {offset : Nat}
    (within : offset < statement.utf8ByteSize) :
    before (earlier ++ ";\n" ++ statement ++ later) (earlier.utf8ByteSize + 2 + offset + 1) =
      fenced (before statement (offset + 1)) (bytes earlier).reverse := by
  have fence : bytes ";\n" = [semicolon, newline] := by decide
  have inner : offset + 1 - (bytes statement).length = 0 := by
    rw [length_bytes]
    omega
  have front : (bytes earlier ++ [semicolon, newline]).length = earlier.utf8ByteSize + 2 := by
    rw [List.length_append, length_bytes]
    rfl
  rw [before, bytes_append, bytes_append, bytes_append, fence, List.append_assoc (_ ++ _), ← front,
    Nat.add_assoc, List.take_length_add_append, List.take_append, inner]
  simp [before, fenced]

theorem locate_behind_boundary (earlier statement later : String) (offset : Nat)
    (within : offset < statement.utf8ByteSize) :
    locate (earlier ++ ";\n" ++ statement ++ later) (earlier.utf8ByteSize + 2 + offset) =
      locate statement offset := by
  have view := before_behind_boundary earlier statement later within
  rw [locate, inStringAt_eq_inLiteral, view, inLiteral_fenced, locateBehind_fenced]
  rfl

theorem locate_behind_boundary_open_literal :
    10 < "g(1, \"x)\\\" ".utf8ByteSize ∧
      locate ("f((\"(" ++ ";\n" ++ "g(1, \"x)\\\" " ++ "))\"") ("f((\"(".utf8ByteSize + 2 + 10) =
        some ⟨"g", 1⟩ := by
  refine ⟨by decide, ?_⟩
  rw [locate_behind_boundary "f((\"(" "g(1, \"x)\\\" " "))\"" 10 (by decide)]
  decide

end NoxAssist.Call
