/-!
# Lines

A line ends at a carriage return with a line feed, or at a single line feed, carriage return,
vertical tab, form feed, next line, line separator or paragraph separator. The break belongs to the
line that it ends, and behind the last break there is one more line, which may be empty.

A column counts UTF-16 units, so a character outside the basic plane counts twice.
-/

namespace NoxAssist.Line

def isBreak (c : Char) : Bool :=
  (0x0a ≤ c.toNat && c.toNat ≤ 0x0d) || c.toNat == 0x85 || c.toNat == 0x2028 || c.toNat == 0x2029

def consChar (c : Char) : List (List Char) → List (List Char)
  | [] => [[c]]
  | line :: lines => (c :: line) :: lines

def split : List Char → List (List Char)
  | [] => [[]]
  | '\r' :: '\n' :: chars => ['\r', '\n'] :: split chars
  | c :: chars => if isBreak c then [c] :: split chars else consChar c (split chars)

/-- A line without a line feed at its end, and without a carriage return before that one. Other
breaks stay. -/
def content (line : List Char) : List Char :=
  match line.reverse with
  | '\n' :: '\r' :: rest => rest.reverse
  | '\n' :: rest => rest.reverse
  | _ => line

def units (c : Char) : Nat :=
  if c.toNat < 0x10000 then 1 else 2

/-- The number of characters that fit into the first `column` UTF-16 units of a line; one that fits
only in part does not count. -/
def charsBefore : Nat → List Char → Nat
  | _, [] => 0
  | column, c :: chars =>
    if units c ≤ column then charsBefore (column - units c) chars + 1 else 0

theorem flatten_consChar (c : Char) (lines : List (List Char)) :
    (consChar c lines).flatten = c :: lines.flatten := by
  cases lines <;> simp [consChar]

theorem flatten_split (chars : List Char) : (split chars).flatten = chars := by
  fun_induction split chars <;> simp_all [flatten_consChar]

end NoxAssist.Line
