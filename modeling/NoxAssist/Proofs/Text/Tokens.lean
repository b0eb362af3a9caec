import Mathlib.Data.Bool.AllAny
import NoxAssist.Proofs.Text.Literal

/-!
# Lines made of code and literals

A line is a sequence of code and string literals, and may end in a literal that is not closed. The
bytes that lie in a string by the parity of quotes are those of the literals, from the opening quote up
to the closing one or to the end of the line (`LineTokens.marked`), whatever the other lines hold. The
count itself, which is taken backward, is that of a pass forward that starts anew on every line
(`foldl_next`).

Tokens are given by their bytes: quotes, backslashes and newlines are bytes of their own.
-/

namespace NoxAssist.Text

/-! ## Tokens -/

/-- A literal on a line: the place of its opening quote, and the place behind its body, where it is
closed or the line ends. -/
structure Span where
  opening : Nat
  ending : Nat
deriving DecidableEq, Repr

def Span.Holds (span : Span) (place : Nat) : Prop :=
  span.opening ≤ place ∧ place < span.ending

/-- A line of code and closed literals. What precedes a literal does not end in a backslash. -/
inductive Tokens : List UInt8 → List Span → Prop
  | nil : Tokens [] []
  | code {line run : List UInt8} {spans : List Span} (earlier : Tokens line spans)
      (plain : ∀ b ∈ run, b ≠ newline ∧ b ≠ quote) : Tokens (line ++ run) spans
  | literal {line body : List UInt8} {spans : List Span} (earlier : Tokens line spans)
      (apart : line.getLast? ≠ some backslash) (single : newline ∉ body) (escaped : Escaped body)
      (closed : body.getLast? ≠ some backslash) :
      Tokens (line ++ quote :: body ++ [quote]) (spans ++ [⟨line.length, (line ++ quote :: body).length⟩])

inductive LineTokens : List UInt8 → List Span → Prop
  | closed {line : List UInt8} {spans : List Span} (tokens : Tokens line spans) : LineTokens line spans
  | unclosed {line body : List UInt8} {spans : List Span} (tokens : Tokens line spans)
      (apart : line.getLast? ≠ some backslash) (single : newline ∉ body) (escaped : Escaped body) :
      LineTokens (line ++ quote :: body) (spans ++ [⟨line.length, (line ++ quote :: body).length⟩])

structure TokenLine where
  bytes : List UInt8
  spans : List Span
  tokens : LineTokens bytes spans

namespace TokenLine

def join (lines : List TokenLine) : List UInt8 :=
  [newline].intercalate (lines.map TokenLine.bytes)

def startAfter : List TokenLine → Nat
  | [] => 0
  | line :: lines => line.bytes.length + 1 + startAfter lines

end TokenLine

/-! ## The literals of a line -/

structure Marked (behind line : List UInt8) (spans : List Span) : Prop where
  inside : ∀ k < line.length,
    inLiteral ((line.take (k + 1)).reverse ++ behind) = true ↔ ∃ span ∈ spans, span.Holds k
  bounded : ∀ span ∈ spans, span.ending ≤ line.length

section Marked
variable {behind line more : List UInt8} {spans extra : List Span}

theorem marked_nil (behind : List UInt8) : Marked behind [] [] :=
  ⟨nofun, nofun⟩

theorem Marked.append (marked : Marked behind line spans)
    (later : ∀ span ∈ extra, line.length ≤ span.opening ∧ span.ending ≤ (line ++ more).length)
    (inside : ∀ k < more.length, inLiteral ((more.take (k + 1)).reverse ++ (line.reverse ++ behind)) = true ↔
      ∃ span ∈ extra, span.Holds (line.length + k)) :
    Marked behind (line ++ more) (spans ++ extra) := by
  constructor
  · intro k bound
    simp only [List.mem_append, or_and_right, exists_or]
    rcases Nat.lt_or_ge k line.length with early | late
    · have none : ¬ ∃ span ∈ extra, span.Holds k := by
        rintro ⟨span, member, holds⟩
        exact absurd ((later span member).1.trans holds.1) (Nat.not_le_of_lt early)
      rw [List.take_append_of_le_length early, marked.inside k early]
      exact (or_iff_left none).symm
    · obtain ⟨j, rfl⟩ := Nat.exists_eq_add_of_le late
      have none : ¬ ∃ span ∈ spans, span.Holds (line.length + j) := by
        rintro ⟨span, member, holds⟩
        have ending := marked.bounded span member
        have place := holds.2
        omega
      rw [List.length_append, Nat.add_lt_add_iff_left] at bound
      rw [Nat.add_assoc, List.take_length_add_append, List.reverse_append, List.append_assoc,
        inside j bound]
      exact (or_iff_right none).symm
  · intro span member
    rcases List.mem_append.mp member with old | new
    · rw [List.length_append]
      exact (marked.bounded span old).trans (Nat.le_add_right _ _)
    · exact (later span new).2

theorem Marked.code (marked : Marked behind line spans) (outside : inLiteral (line.reverse ++ behind) = false)
    (plain : ∀ b ∈ more, b ≠ newline ∧ b ≠ quote) : Marked behind (line ++ more) spans := by
  rw [← List.append_nil spans]
  refine marked.append nofun fun k _ => ?_
  rw [inLiteral_plain fun b member => plain b (List.mem_of_mem_take (List.mem_reverse.mp member)), outside]
  simp

theorem Marked.opened (marked : Marked behind line spans)
    (outside : inLiteral (line.reverse ++ behind) = false)
    (unescaped : isUnescaped (line.reverse ++ behind) = true) {body : List UInt8} (single : newline ∉ body)
    (escaped : Escaped body) :
    Marked behind (line ++ quote :: body) (spans ++ [⟨line.length, (line ++ quote :: body).length⟩]) := by
  refine marked.append ?_ fun k bound => ?_
  · simp
  · have initial := List.take_prefix k body
    rw [List.take_succ_cons, List.reverse_cons, List.append_assoc, List.singleton_append,
      inLiteral_body (fun member => single (initial.subset member)) (escaped.of_prefix initial)
        unescaped, outside]
    simpa [Span.Holds] using bound

end Marked

section Line
variable {behind line : List UInt8} {spans : List Span} (unescaped : isUnescaped behind = true)
  (outside : inLiteral behind = false)
include unescaped outside

theorem Tokens.marked (tokens : Tokens line spans) :
    Marked behind line spans ∧ inLiteral (line.reverse ++ behind) = false := by
  induction tokens with
  | nil => exact ⟨marked_nil behind, outside⟩
  | @code line run spans _ plain ih =>
    refine ⟨ih.1.code ih.2 plain, ?_⟩
    rw [List.reverse_append, List.append_assoc,
      inLiteral_plain fun b member => plain b (List.mem_reverse.mp member)]
    exact ih.2
  | @literal line body spans _ apart single escaped closed ih =>
    -- the body is marked as that of an open literal, and the closing quote ends it
    have start := isUnescaped_reverse unescaped apart
    have opened := ih.1.opened ih.2 start single escaped
    have closes : inLiteral (quote :: ((line ++ quote :: body).reverse ++ behind)) = false := by
      have inner : (line ++ quote :: body).reverse ++ behind =
          body.reverse ++ quote :: (line.reverse ++ behind) := by simp
      rw [inner, inLiteral_unescaped (isUnescaped_reverse rfl closed),
        inLiteral_body single escaped start, Bool.not_not, ih.2]
    constructor
    · rw [← List.append_nil (spans ++ _)]
      refine opened.append nofun fun k bound => ?_
      obtain rfl : k = 0 := Nat.lt_one_iff.mp bound
      simpa using closes
    · simpa using closes

theorem LineTokens.marked (tokens : LineTokens line spans) : Marked behind line spans := by
  cases tokens with
  | closed tokens => exact (tokens.marked unescaped outside).1
  | unclosed tokens apart single escaped =>
    obtain ⟨marked, closed⟩ := tokens.marked unescaped outside
    exact marked.opened closed (isUnescaped_reverse unescaped apart) single escaped

end Line

/-! ## Lines in a text -/

theorem inStringAt_of_marked {text : String} {front line back : List UInt8} {spans : List Span}
    (split : bytes text = front ++ (line ++ back)) (stops : back.head?.all (· == newline) = true)
    (marked : Marked front.reverse line spans) {k : Nat} (le : k ≤ line.length)
    (bound : front.length + k < (bytes text).length) :
    inStringAt text (front.length + k) = true ↔ ∃ span ∈ spans, span.Holds k := by
  have behind : before text (front.length + k + 1) = ((line ++ back).take (k + 1)).reverse ++ front.reverse := by
    rw [before, split, Nat.add_assoc, List.take_length_add_append, List.reverse_append]
  rw [inStringAt_eq_inLiteral, behind]
  rcases Nat.eq_or_lt_of_le le with rfl | inside
  · -- the newline behind the line
    cases back with
    | nil =>
      simp [split] at bound
    | cons b back =>
      obtain rfl : b = newline := by simpa using stops
      have none : ¬ ∃ span ∈ spans, span.Holds line.length := by
        rintro ⟨span, member, holds⟩
        exact absurd (marked.bounded span member) (Nat.not_le_of_lt holds.2)
      simp [List.take_length_add_append, none]
  · rw [List.take_append_of_le_length inside]
    exact marked.inside k inside

namespace TokenLine

theorem join_cons (line : TokenLine) {lines : List TokenLine} (more : lines ≠ []) :
    join (line :: lines) = line.bytes ++ newline :: join lines := by
  rw [join, List.map_cons, List.intercalate_cons_of_ne_nil (by simpa using more)]
  simp [join]

theorem join_split (before : List TokenLine) (line : TokenLine) (after : List TokenLine) :
    ∃ front back, join (before ++ line :: after) = front ++ (line.bytes ++ back) ∧
      front.length = startAfter before ∧ front.getLast?.all (· == newline) = true ∧
      back.head?.all (· == newline) = true := by
  induction before with
  | nil =>
    cases after with
    | nil => exact ⟨[], [], by simp [join], rfl, rfl, rfl⟩
    | cons next after =>
      exact ⟨[], newline :: join (next :: after), join_cons line (by simp), rfl, rfl, rfl⟩
  | cons first before ih =>
    obtain ⟨front, back, split, size, begins, stops⟩ := ih
    refine ⟨first.bytes ++ newline :: front, back, ?_, ?_, ?_, stops⟩
    · rw [List.cons_append, join_cons first (by simp), split]
      simp
    · rw [startAfter, ← size, List.length_append, List.length_cons]
      omega
    · cases front with
      | nil => simp
      | cons b front =>
        rw [List.getLast?_append, List.getLast?_cons_cons,
          List.getLast?_eq_some_getLast (List.cons_ne_nil b front), Option.some_or]
        rwa [List.getLast?_eq_some_getLast (List.cons_ne_nil b front)] at begins

theorem exists_line {lines : List TokenLine} {o : Nat} (bound : o < (join lines).length) :
    ∃ before line after, lines = before ++ line :: after ∧ startAfter before ≤ o ∧
      o ≤ startAfter before + line.bytes.length := by
  induction lines generalizing o with
  | nil => cases bound
  | cons first lines ih =>
    rcases Nat.lt_or_ge first.bytes.length o with beyond | within
    · have more : lines ≠ [] := by
        rintro rfl
        have whole : (join [first]).length = first.bytes.length := by simp [join]
        omega
      rw [join_cons first more, List.length_append, List.length_cons] at bound
      obtain ⟨before, line, after, rfl, above, below⟩ :=
        ih (show o - (first.bytes.length + 1) < (join lines).length by omega)
      refine ⟨first :: before, line, after, rfl, ?_, ?_⟩
      · rw [startAfter]
        omega
      · rw [startAfter]
        omega
    · exact ⟨[], first, lines, rfl, Nat.zero_le o, by simpa [startAfter] using within⟩

end TokenLine

/-! ## The pass forward -/

structure Tally where
  quotes : Nat
  last : Option UInt8

namespace Tally

def start : Tally :=
  ⟨0, none⟩

def next (tally : Tally) (b : UInt8) : Tally where
  quotes :=
    if b == newline then 0
    else if b == quote && tally.last != some backslash then tally.quotes + 1
    else tally.quotes
  last := some b

theorem foldl_next (run : List UInt8) :
    run.foldl next start = ⟨quotesBehind run.reverse, run.getLast?⟩ := by
  induction run using List.reverseRecOn with
  | nil => rfl
  | append_singleton run b ih =>
    rw [List.foldl_append, ih]
    simp [next, quotesBehind, isUnescaped]

end Tally

theorem quoteCount_eq_tally (text : String) (offset : Nat) :
    quoteCount text offset = (((bytes text).take (min offset (text.utf8ByteSize - 1) + 1)).foldl
      Tally.next Tally.start).quotes := by
  rw [Tally.foldl_next, quoteCount, before_succ_min]
  rfl

theorem inStringAt_on_line {text : String} {before after : List TokenLine} {line : TokenLine}
    (split : bytes text = TokenLine.join (before ++ line :: after)) {o : Nat}
    (within : o < text.utf8ByteSize) (above : TokenLine.startAfter before ≤ o)
    (below : o ≤ TokenLine.startAfter before + line.bytes.length) :
    inStringAt text o = true ↔ ∃ span ∈ line.spans,
      TokenLine.startAfter before + span.opening ≤ o ∧ o < TokenLine.startAfter before + span.ending := by
  obtain ⟨front, back, parts, size, begins, stops⟩ := TokenLine.join_split before line after
  obtain ⟨k, rfl⟩ := Nat.exists_eq_add_of_le above
  have marked : Marked front.reverse line.bytes line.spans := by
    rw [← List.head?_reverse] at begins
    cases shape : front.reverse with
    | nil => exact line.tokens.marked rfl rfl
    | cons b rest =>
      rw [shape] at begins
      obtain rfl : b = newline := by simpa using begins
      exact line.tokens.marked rfl (inLiteral_newline rest)
  rw [← size] at within below ⊢
  rw [inStringAt_of_marked (split.trans parts) stops marked (by omega) (by rwa [length_bytes])]
  simp only [Span.Holds, Nat.add_le_add_iff_left, Nat.add_lt_add_iff_left]

/-- A byte lies in a string exactly if it lies in a literal of its line, from the opening quote up to
the closing one or to the end of the line; and the count of quotes is that of a pass forward. -/
theorem inStringAt_iff_in_literal :
    (∀ (text : String) (lines : List TokenLine), bytes text = TokenLine.join lines →
      ∀ o < text.utf8ByteSize, inStringAt text o = true ↔
        ∃ before line after, lines = before ++ line :: after ∧
          TokenLine.startAfter before ≤ o ∧ o ≤ TokenLine.startAfter before + line.bytes.length ∧
          ∃ span ∈ line.spans, TokenLine.startAfter before + span.opening ≤ o ∧
            o < TokenLine.startAfter before + span.ending) ∧
    ∀ (text : String) (offset : Nat), quoteCount text offset =
      (((bytes text).take (min offset (text.utf8ByteSize - 1) + 1)).foldl
        Tally.next Tally.start).quotes := by
  refine ⟨fun text lines split o within => ?_, quoteCount_eq_tally⟩
  constructor
  · intro inside
    obtain ⟨before, line, after, rfl, above, below⟩ :=
      TokenLine.exists_line (show o < (TokenLine.join lines).length by rwa [← split, length_bytes])
    exact ⟨before, line, after, rfl, above, below,
      (inStringAt_on_line split within above below).mp inside⟩
  · rintro ⟨before, line, after, rfl, above, below, held⟩
    exact (inStringAt_on_line split within above below).mpr held

theorem inStringAt_iff_in_literal_unclosed :
    let text := "x\"a\\\"b\";\n\"c\\\""
    (∃ first second : TokenLine, first.spans = [⟨1, 6⟩] ∧ second.spans = [⟨0, 4⟩] ∧
      bytes text = TokenLine.join [first, second]) ∧
      inStringAt text 4 = true ∧ inStringAt text 6 = false ∧ inStringAt text 12 = true ∧
      quoteCount text 20 = 1 := by
  intro text
  let first : TokenLine :=
    ⟨([] ++ bytes "x") ++ quote :: bytes "a\\\"b" ++ [quote] ++ bytes ";", [⟨1, 6⟩],
      .closed (.code (.literal (.code .nil (List.all_iff_forall_prop.mp (by decide))) (by decide)
        (by decide) (by decide) (by decide)) (List.all_iff_forall_prop.mp (by decide)))⟩
  let second : TokenLine :=
    ⟨[] ++ quote :: bytes "c\\\"", [⟨0, 4⟩],
      .unclosed .nil (by decide) (by decide) (by decide)⟩
  have split : bytes text = TokenLine.join [first, second] := by decide
  obtain ⟨inside, count⟩ := inStringAt_iff_in_literal
  have literal := inside text [first, second] split
  refine ⟨⟨first, second, rfl, rfl, split⟩, ?_, ?_, ?_, ?_⟩
  · exact (literal 4 (by decide)).mpr
      ⟨[], first, [second], rfl, by decide, by decide, ⟨1, 6⟩, by decide, by decide, by decide⟩
  · refine Bool.eq_false_iff.mpr fun held => ?_
    obtain ⟨before, line, after, parts, above, -, span, member, -, upper⟩ :=
      (literal 6 (by decide)).mp held
    cases before with
    | nil =>
      obtain ⟨rfl, -⟩ := List.cons.inj parts
      obtain rfl := List.mem_singleton.mp member
      exact absurd upper (by decide)
    | cons _ before =>
      obtain ⟨rfl, -⟩ := List.cons.inj parts
      have size : first.bytes.length = 8 := by decide
      rw [TokenLine.startAfter, size] at above
      omega
  · exact (literal 12 (by decide)).mpr
      ⟨[first], second, [], rfl, by decide, by decide, ⟨0, 4⟩, by decide, by decide, by decide⟩
  · exact (count text 20).trans (by decide)

end NoxAssist.Text
