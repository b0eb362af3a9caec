import Mathlib.Data.Bool.AllAny
import NoxAssist.Proofs.Call.Walk
import NoxAssist.Proofs.Text.LastWord

/-!
# Calls with well-formed arguments are found

An argument is a sequence of pieces: plain characters, closed string literals and groups in
parentheses, which may hold commas of their own. The walk back from the end of such a text passes
each piece in the state in which it came to it (`Passable`), so it counts the commas between the
arguments and nothing else, and stops at the parenthesis of the call.

* `Piece.passable`: every piece is passed, by induction on the grammar.
* `locateAtCursor_written`: the call is found, also from inside a literal that is still open.
-/

namespace NoxAssist.Call
open Text

/-! ## The grammar of arguments -/

def reserved : List Char :=
  ['"', '\\', '(', ')', ',', ';']

def QuotesEscaped (body : List Char) : Prop :=
  ∀ front back, body = front ++ '"' :: back → front.getLast? = some '\\'

instance : DecidablePred QuotesEscaped :=
  fun _ => decidable_of_iff _ forall_split_iff.symm

inductive Piece : List Char → Prop
  | plain (c : Char) (free : c ∉ reserved) : Piece [c]
  | literal (body : List Char) (line : '\n' ∉ body) (escaped : QuotesEscaped body)
      (closed : body.getLast? ≠ some '\\') : Piece ('"' :: (body ++ ['"']))
  | group (parts : List (List Char)) (pieces : ∀ part ∈ parts, part ≠ [','] → Piece part) :
      Piece ('(' :: (parts.flatten ++ [')']))

def IsArgument (argument : List Char) : Prop :=
  ∃ pieces : List (List Char), (∀ piece ∈ pieces, Piece piece) ∧ argument = pieces.flatten

def written (start name gap : String) (arguments : List String) : String :=
  start ++ name ++ gap ++ "(" ++ ",".intercalate arguments

/-! ## Bytes that the walk passes -/

theorem locateBehind_code {b : UInt8} (free : b ∉ [quote, semicolon, openParen, closeParen, comma])
    (depth commas : Nat) (behind : List UInt8) :
    locateBehind false depth commas (b :: behind) = locateBehind false depth commas behind := by
  simp only [List.mem_cons, List.not_mem_nil, or_false, not_or] at free
  obtain ⟨noQuote, noSemicolon, noOpen, noClose, noComma⟩ := free
  rw [locateBehind_cons]
  simp [ends, opensList, nextInside, nextDepth, counts, noSemicolon, noOpen, noClose,
    beq_eq_false_iff_ne.mpr noQuote, beq_eq_false_iff_ne.mpr noComma]

theorem locateBehind_run {run : List UInt8}
    (free : ∀ b ∈ run, b ∉ [quote, semicolon, openParen, closeParen, comma])
    (depth commas : Nat) (behind : List UInt8) :
    locateBehind false depth commas (run ++ behind) = locateBehind false depth commas behind := by
  induction run with
  | nil => rfl
  | cons b run ih =>
    rw [List.cons_append, locateBehind_code (free b List.mem_cons_self)]
    exact ih fun x member => free x (List.mem_cons_of_mem _ member)

theorem locateBehind_quote (depth commas : Nat) (behind : List UInt8) :
    locateBehind false depth commas (quote :: behind) = locateBehind true depth commas behind := by
  rw [locateBehind_cons]
  simp [ends, opensList, nextInside, nextDepth, counts, quote, semicolon, openParen, closeParen,
    comma]

theorem locateBehind_close (depth commas : Nat) (behind : List UInt8) :
    locateBehind false depth commas (closeParen :: behind) =
      locateBehind false (depth + 1) commas behind := by
  rw [locateBehind_cons]
  simp [ends, opensList, nextInside, nextDepth, counts, quote, semicolon, openParen, closeParen,
    comma]

theorem locateBehind_open (depth commas : Nat) (behind : List UInt8) :
    locateBehind false (depth + 1) commas (openParen :: behind) =
      locateBehind false depth commas behind := by
  rw [locateBehind_cons]
  simp [ends, opensList, nextInside, nextDepth, counts, quote, semicolon, openParen, comma]

theorem locateBehind_comma (depth commas : Nat) (behind : List UInt8) :
    locateBehind false depth commas (comma :: behind) =
      locateBehind false depth (commas + (depth == 0).toNat) behind := by
  rw [locateBehind_cons]
  simp [ends, opensList, nextInside, nextDepth, counts, quote, semicolon, openParen, closeParen,
    comma]

theorem locateBehind_inside {b : UInt8} {behind : List UInt8} (stays : leavesLiteral b behind = false)
    (depth commas : Nat) :
    locateBehind true depth commas (b :: behind) = locateBehind true depth commas behind := by
  rw [locateBehind_cons]
  simp [ends, opensList, nextInside, nextDepth, counts, stays]

theorem locateBehind_leave {b : UInt8} {behind : List UInt8} (leaves : leavesLiteral b behind = true)
    (depth commas : Nat) :
    locateBehind true depth commas (b :: behind) = locateBehind false depth commas behind := by
  rw [locateBehind_cons]
  simp [ends, opensList, nextInside, nextDepth, counts, leaves]

/-! ## Bodies of literals -/

theorem isUnescaped_run {run : List UInt8} (nonempty : run ≠ []) (free : ∀ b ∈ run, b ≠ backslash)
    (behind : List UInt8) : isUnescaped (run ++ behind) = true := by
  cases run with
  | nil => exact absurd rfl nonempty
  | cons b run =>
    have other := free b List.mem_cons_self
    simp [isUnescaped, other]

theorem newline_not_mem_encode {body : List Char} (line : '\n' ∉ body) : newline ∉ encode body :=
  mt (mem_encode (c := '\n') (by decide)).mp line

theorem QuotesEscaped.encode {body : List Char} (escaped : QuotesEscaped body) :
    Escaped (encode body) := by
  intro front back split
  have here : (Text.encode body)[front.length]? = some quote := by
    rw [split]
    simp
  obtain ⟨before, behind, rfl, place⟩ := exists_split_of_ascii here (by decide)
  have same : front = Text.encode before := by
    have start := congrArg (List.take front.length) split
    rw [List.take_left, ← place, ← length_encode, encode_append, List.take_left] at start
    exact start.symm
  rw [same]
  exact (getLast?_encode (c := '\\') (by decide)).mpr (escaped before behind rfl)

theorem isUnescaped_body {body : List Char} (closed : body.getLast? ≠ some '\\')
    (behind : List UInt8) : isUnescaped ((encode body).reverse ++ quote :: behind) = true :=
  isUnescaped_reverse rfl (mt (getLast?_encode (c := '\\') (by decide)).mp closed)

theorem locateBehind_body {body : List Char} (line : '\n' ∉ body) (escaped : QuotesEscaped body)
    {behind : List UInt8} (unescaped : isUnescaped behind = true) (depth commas : Nat) :
    locateBehind true depth commas ((encode body).reverse ++ quote :: behind) =
      locateBehind false depth commas behind := by
  apply body_induction (P := fun bytes => locateBehind true depth commas bytes =
    locateBehind false depth commas behind) _ _ _ (newline_not_mem_encode line) escaped.encode
  · exact locateBehind_leave (by simp [leavesLiteral, unescaped]) depth commas
  · intro b rest noNewline noQuote same
    rw [locateBehind_inside (by simp [leavesLiteral, noNewline, noQuote]), same]
  · intro rest backslashed same
    rw [locateBehind_inside (by simp [leavesLiteral, backslashed, quote, newline]), same]

/-! ## Pieces are passed -/

/-- A run of characters that leaves the walk and the string state of its line as they were, once
`least` parentheses are to be opened. -/
structure Passable (least : Nat) (run : List Char) : Prop where
  unescaped : ∀ behind, isUnescaped behind = true →
    isUnescaped ((encode run).reverse ++ behind) = true
  outside : ∀ behind, isUnescaped behind = true → inLiteral behind = false →
    inLiteral ((encode run).reverse ++ behind) = false
  walk : ∀ behind depth commas, isUnescaped behind = true → least ≤ depth →
    locateBehind false depth commas ((encode run).reverse ++ behind) =
      locateBehind false depth commas behind

namespace Passable
variable {least : Nat}

theorem nil : Passable least [] :=
  ⟨fun _ unescaped => unescaped, fun _ _ outside => outside, fun _ _ _ _ _ => rfl⟩

theorem append {front back : List Char} (first : Passable least front)
    (second : Passable least back) : Passable least (front ++ back) := by
  constructor
  · intro behind unescaped
    rw [encode_append, List.reverse_append, List.append_assoc]
    exact second.unescaped _ (first.unescaped _ unescaped)
  · intro behind unescaped outside
    rw [encode_append, List.reverse_append, List.append_assoc]
    exact second.outside _ (first.unescaped _ unescaped) (first.outside _ unescaped outside)
  · intro behind depth commas unescaped deep
    rw [encode_append, List.reverse_append, List.append_assoc,
      second.walk _ depth commas (first.unescaped _ unescaped) deep,
      first.walk _ depth commas unescaped deep]

theorem flatten {parts : List (List Char)} (each : ∀ part ∈ parts, Passable least part) :
    Passable least parts.flatten := by
  induction parts with
  | nil => exact nil
  | cons part parts ih =>
    exact (each part List.mem_cons_self).append
      (ih fun other member => each other (List.mem_cons_of_mem _ member))

theorem mono {more : Nat} {run : List Char} (passable : Passable least run) (le : least ≤ more) :
    Passable more run :=
  ⟨passable.unescaped, passable.outside, fun behind depth commas unescaped deep =>
    passable.walk behind depth commas unescaped (le.trans deep)⟩

theorem plain {c : Char} (free : c ∉ reserved) : Passable least [c] := by
  have bytes : ∀ x ∈ [quote, semicolon, openParen, closeParen, Text.comma, backslash],
      ∀ b ∈ (encode [c]).reverse, b ≠ x := by
    intro x special b member
    have table : ∀ x ∈ [quote, semicolon, openParen, closeParen, Text.comma, backslash],
        x.toNat < 128 ∧ Char.ofUInt8 x ∈ reserved ∧ (Char.ofUInt8 x).toNat = x.toNat :=
      List.all_iff_forall_prop.mp (by decide)
    obtain ⟨ascii, taken, value⟩ := table x special
    apply byte_ne (c := c) (by simpa using member) ascii
    rw [← value, Ne, Char.toNat_inj]
    rintro rfl
    exact free taken
  constructor
  · intro behind _
    exact isUnescaped_run (by simp) (bytes backslash (by decide)) behind
  · intro behind _ outside
    exact inLiteral_run (bytes quote (by decide)) outside
  · intro behind depth commas _ _
    refine locateBehind_run (fun b member special => ?_) depth commas behind
    exact bytes b (List.mem_append_left [backslash] special) b member rfl

theorem comma : Passable 1 [','] := by
  have byte : (encode [',']).reverse = [Text.comma] := by decide
  constructor
  · intro behind _
    rw [byte]
    rfl
  · intro behind _ outside
    rw [byte]
    exact (inLiteral_other behind (by decide) (by decide)).trans outside
  · intro behind depth commas _ deep
    rw [byte, List.singleton_append, locateBehind_comma]
    have nested : (depth == 0) = false := beq_eq_false_iff_ne.mpr (by omega)
    rw [nested]
    rfl

theorem literal {body : List Char} (line : '\n' ∉ body) (escaped : QuotesEscaped body)
    (closed : body.getLast? ≠ some '\\') : Passable least ('"' :: (body ++ ['"'])) := by
  have bytes (behind : List UInt8) : (encode ('"' :: (body ++ ['"']))).reverse ++ behind =
      quote :: ((encode body).reverse ++ quote :: behind) := by
    have byte : String.utf8EncodeChar '"' = [quote] := by decide
    simp [byte]
  constructor
  · intro behind _
    rw [bytes]
    rfl
  · intro behind unescaped outside
    rw [bytes, inLiteral_unescaped (isUnescaped_body closed behind),
      inLiteral_body (newline_not_mem_encode line) escaped.encode unescaped, Bool.not_not, outside]
  · intro behind depth commas unescaped _
    rw [bytes, locateBehind_quote, locateBehind_body line escaped unescaped]

theorem group {inner : List Char} (passable : Passable 1 inner) :
    Passable least ('(' :: (inner ++ [')'])) := by
  have bytes (behind : List UInt8) : (encode ('(' :: (inner ++ [')']))).reverse ++ behind =
      closeParen :: ((encode inner).reverse ++ openParen :: behind) := by
    have first : String.utf8EncodeChar '(' = [openParen] := by decide
    have last : String.utf8EncodeChar ')' = [closeParen] := by decide
    simp [first, last]
  have opened (behind : List UInt8) : isUnescaped (openParen :: behind) = true := rfl
  constructor
  · intro behind _
    rw [bytes]
    rfl
  · intro behind _ outside
    rw [bytes, inLiteral_other _ (by decide) (by decide)]
    refine passable.outside _ (opened behind) ?_
    rw [inLiteral_other _ (by decide) (by decide), outside]
  · intro behind depth commas _ _
    rw [bytes, locateBehind_close, passable.walk _ _ _ (opened behind) (Nat.le_add_left 1 depth),
      locateBehind_open]

end Passable

theorem Piece.passable {piece : List Char} (isPiece : Piece piece) : Passable 0 piece := by
  induction isPiece with
  | plain c free => exact Passable.plain free
  | literal body line escaped closed => exact Passable.literal line escaped closed
  | group parts pieces ih =>
    -- inside the group a comma is no better than a plain character
    refine Passable.group (Passable.flatten fun part member => ?_)
    by_cases separator : part = [',']
    · rw [separator]
      exact Passable.comma
    · exact (ih part member separator).mono (Nat.zero_le 1)

theorem IsArgument.passable {argument : List Char} (isArgument : IsArgument argument) :
    Passable 0 argument := by
  obtain ⟨pieces, each, rfl⟩ := isArgument
  exact Passable.flatten fun piece member => (each piece member).passable

/-! ## The call that is found -/

theorem identifierEnding_name {start name gap : String}
    (apart : (bytes start).getLast?.any isIdentByte = false) (named : name ≠ "")
    (ident : ∀ b ∈ bytes name, isIdentByte b = true)
    (blank : ∀ b ∈ bytes gap, isAsciiBlank b = true) :
    identifierEnding ((bytes gap).reverse ++ ((bytes name).reverse ++ (bytes start).reverse)) =
      some name := by
  have nonempty : bytes name ≠ [] := by
    rw [Ne, ← List.length_eq_zero_iff, length_bytes, String.utf8ByteSize_eq_zero_iff]
    exact named
  have ends : EndsInWord (bytes start ++ bytes name ++ bytes gap) (bytes start) (bytes name)
      (bytes gap) := ⟨rfl, blank, nonempty, ident, apart⟩
  rw [← List.reverse_append, ← List.reverse_append]
  exact identifierEnding_eq_some_iff.mpr ⟨_, _, ends⟩

theorem locateBehind_arguments {arguments : List (List Char)}
    (each : ∀ argument ∈ arguments, IsArgument argument) {behind : List UInt8}
    (unescaped : isUnescaped behind = true) (commas : Nat) :
    locateBehind false 0 commas ((encode (arguments.flatMap (',' :: ·))).reverse ++ behind) =
      locateBehind false 0 (commas + arguments.length) behind := by
  induction arguments generalizing behind with
  | nil => rfl
  | cons argument arguments ih =>
    have passable := (each argument List.mem_cons_self).passable
    have byte : String.utf8EncodeChar ',' = [Text.comma] := by decide
    have bytes : (encode ((argument :: arguments).flatMap (',' :: ·))).reverse ++ behind =
        (encode (arguments.flatMap (',' :: ·))).reverse ++
          ((encode argument).reverse ++ Text.comma :: behind) := by
      simp [byte]
    have opened : isUnescaped (Text.comma :: behind) = true := rfl
    rw [bytes, ih (fun other member => each other (List.mem_cons_of_mem _ member))
        (passable.unescaped _ opened), passable.walk _ 0 _ opened (Nat.le_refl 0), locateBehind_comma,
      List.length_cons, Nat.add_assoc]
    rfl

theorem passable_arguments {arguments : List (List Char)}
    (each : ∀ argument ∈ arguments, IsArgument argument) :
    Passable 1 (arguments.flatMap (',' :: ·)) := by
  rw [List.flatMap_def]
  apply Passable.flatten
  intro part member
  obtain ⟨argument, listed, rfl⟩ := List.mem_map.mp member
  exact Passable.comma.append ((each argument listed).passable.mono (Nat.zero_le 1))

theorem intercalate_eq_flatMap (first : List Char) (rest : List (List Char)) :
    [','].intercalate (first :: rest) = first ++ rest.flatMap (',' :: ·) := by
  induction rest generalizing first with
  | nil => simp
  | cons second rest ih => rw [List.intercalate_cons_cons, ih]; simp

def opening (start name gap : String) : List UInt8 :=
  openParen :: ((bytes gap).reverse ++ ((bytes name).reverse ++ (bytes start).reverse))

theorem inLiteral_opening {start name gap : String}
    (code : inLiteral (bytes start).reverse = false)
    (ident : ∀ b ∈ bytes name, isIdentByte b = true)
    (blank : ∀ b ∈ bytes gap, isAsciiBlank b = true) :
    inLiteral (opening start name gap) = false := by
  have quoteFree : ∀ b ∈ openParen :: ((bytes gap).reverse ++ (bytes name).reverse), b ≠ quote := by
    rintro b member rfl
    rcases List.mem_cons.mp member with paren | member
    · exact absurd paren (by decide)
    rcases List.mem_append.mp member with member | member
    · exact absurd (blank quote (List.mem_reverse.mp member)) (by decide)
    · exact absurd (ident quote (List.mem_reverse.mp member)) (by decide)
  simpa [opening] using inLiteral_run quoteFree code

theorem locateBehind_opening {start name gap : String} (commas : Nat)
    (ending : identifierEnding ((bytes gap).reverse ++
      ((bytes name).reverse ++ (bytes start).reverse)) = some name) :
    locateBehind false 0 commas (opening start name gap) = some ⟨name, commas⟩ := by
  rw [opening, locateBehind_cons]
  simp [ends, opensList, ending, openParen, semicolon]

theorem bytes_written (start name gap first : String) (rest : List String) :
    (bytes (written start name gap (first :: rest))).reverse =
      (encode ((rest.map String.toList).flatMap (',' :: ·))).reverse ++
        ((encode first.toList).reverse ++ opening start name gap) := by
  have paren : bytes "(" = [openParen] := by decide
  have list : bytes (",".intercalate (first :: rest)) =
      encode first.toList ++ encode ((rest.map String.toList).flatMap (',' :: ·)) := by
    rw [bytes_eq_encode, String.toList_intercalate, List.map_cons, ← encode_append,
      ← intercalate_eq_flatMap]
    rfl
  simp [written, list, paren, opening]

theorem locateAtCursor_end (text : String) :
    locateAtCursor text text.utf8ByteSize =
      locateBehind (inLiteral (bytes text).reverse) 0 0 (bytes text).reverse := by
  rw [← before_utf8ByteSize]
  cases text.utf8ByteSize with
  | zero => simp [locateAtCursor, before, locateBehind]
  | succ offset => rfl

theorem locateAtCursor_open {text : String} (unescaped : isUnescaped (bytes text).reverse = true)
    (outside : inLiteral (bytes text).reverse = false) {body : String} (line : '\n' ∉ body.toList)
    (escaped : QuotesEscaped body.toList) :
    locateAtCursor (text ++ "\"" ++ body) (text ++ "\"" ++ body).utf8ByteSize =
      locateBehind false 0 0 (bytes text).reverse := by
  have byte : bytes "\"" = [quote] := by decide
  have longer : (bytes (text ++ "\"" ++ body)).reverse =
      (encode body.toList).reverse ++ quote :: (bytes text).reverse := by
    simp [byte, ← bytes_eq_encode]
  rw [locateAtCursor_end, longer,
    inLiteral_body (newline_not_mem_encode line) escaped.encode unescaped, outside, Bool.not_false,
    locateBehind_body line escaped unescaped]

/-- The call whose arguments are being written is found, and its argument is the number of commas
between them; so it is when the last argument goes on with a literal that is not closed yet. -/
theorem locateAtCursor_written (start name gap first : String) (rest : List String)
    (begins : start = "" ∨ ((bytes start).getLast?.any isIdentByte = false ∧
      inStringAt start (start.utf8ByteSize - 1) = false))
    (named : name ≠ "") (ident : ∀ b ∈ bytes name, isIdentByte b = true)
    (blank : ∀ b ∈ bytes gap, isAsciiBlank b = true)
    (wellFormed : ∀ argument ∈ first :: rest, IsArgument argument.toList) :
    let text := written start name gap (first :: rest)
    locateAtCursor text text.utf8ByteSize = some ⟨name, rest.length⟩ ∧
      ∀ body : String, '\n' ∉ body.toList → QuotesEscaped body.toList →
        let longer := text ++ "\"" ++ body
        locateAtCursor longer longer.utf8ByteSize = some ⟨name, rest.length⟩ := by
  intro text
  have apart : (bytes start).getLast?.any isIdentByte = false := by
    rcases begins with rfl | ⟨apart, -⟩
    · rfl
    · exact apart
  have code : inLiteral (bytes start).reverse = false := by
    rcases begins with rfl | ⟨-, code⟩
    · rfl
    · rw [← before_utf8ByteSize]
      cases size : start.utf8ByteSize with
      | zero => rfl
      | succ last => rwa [size] at code
  have each : ∀ argument ∈ rest.map String.toList, IsArgument argument := by
    intro argument member
    obtain ⟨other, listed, rfl⟩ := List.mem_map.mp member
    exact wellFormed other (List.mem_cons_of_mem _ listed)
  have head := (wellFormed first List.mem_cons_self).passable
  have tail := passable_arguments each
  have opened : isUnescaped (opening start name gap) = true := rfl
  have unescaped : isUnescaped (bytes text).reverse = true := by
    rw [bytes_written]
    exact tail.unescaped _ (head.unescaped _ opened)
  have outside : inLiteral (bytes text).reverse = false := by
    rw [bytes_written]
    exact tail.outside _ (head.unescaped _ opened)
      (head.outside _ opened (inLiteral_opening code ident blank))
  have walk : locateBehind false 0 0 (bytes text).reverse = some ⟨name, rest.length⟩ := by
    rw [bytes_written, locateBehind_arguments each (head.unescaped _ opened),
      head.walk _ 0 _ opened (Nat.le_refl 0),
      locateBehind_opening _ (identifierEnding_name apart named ident blank), List.length_map,
      Nat.zero_add]
  constructor
  · rw [locateAtCursor_end, outside, walk]
  · intro body line escaped
    exact (locateAtCursor_open unescaped outside line escaped).trans walk

theorem IsArgument.ofPlain {argument : List Char} (free : ∀ c ∈ argument, c ∉ reserved) :
    IsArgument argument := by
  refine ⟨argument.map ([·]), ?_, by rw [← List.flatMap_def, List.flatMap_singleton']⟩
  intro piece member
  obtain ⟨c, listed, rfl⟩ := List.mem_map.mp member
  exact .plain c (free c listed)

theorem locateAtCursor_written_nested :
    let text := written "x;\n" "f" " \n" ["g(1,\")\\\"\")", "\n2"]
    locateAtCursor text text.utf8ByteSize = some ⟨"f", 1⟩ ∧
      locateAtCursor (text ++ "\"" ++ "(,;") (text ++ "\"" ++ "(,;").utf8ByteSize =
        some ⟨"f", 1⟩ := by
  have nested : IsArgument "g(1,\")\\\"\")".toList := by
    refine ⟨[['g'], '(' :: ([['1'], [','], '"' :: ([')', '\\', '"'] ++ ['"'])].flatten ++ [')'])], ?_,
      by decide⟩
    simp only [List.mem_cons, List.not_mem_nil, or_false]
    rintro piece (rfl | rfl)
    · exact .plain 'g' (by decide)
    · apply Piece.group
      simp only [List.mem_cons, List.not_mem_nil, or_false]
      rintro part (rfl | rfl | rfl) separator
      · exact .plain '1' (by decide)
      · exact absurd rfl separator
      · exact .literal _ (by decide) (by decide) (by decide)
  have holds := locateAtCursor_written "x;\n" "f" " \n" "g(1,\")\\\"\")" ["\n2"]
    (Or.inr (by decide)) (by decide) (List.all_eq_true.mp (by decide))
    (List.all_eq_true.mp (by decide)) (by
      simp only [List.mem_cons, List.not_mem_nil, or_false]
      rintro argument (rfl | rfl)
      · exact nested
      · exact .ofPlain (List.all_iff_forall_prop.mp (by decide)))
  exact ⟨holds.1, holds.2 "(,;" (by decide) (by decide)⟩

end NoxAssist.Call
