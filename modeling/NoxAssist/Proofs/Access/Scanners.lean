import Mathlib.Order.Bounds.Basic
import NoxAssist.Proofs.Access.Basic
import NoxAssist.Proofs.Text.LastWord
import NoxAssist.Proofs.Text.Literal

namespace NoxAssist.Access
open Text

def lastPlace (text : String) (offset : Nat) : Access Nat := do
  let ⟨last, _⟩ ← difference text.utf8ByteSize 1
  return min offset last

section
variable {text : String}

theorem lastPlace_eq (nonempty : text.utf8ByteSize ≠ 0) (offset : Nat) :
    lastPlace text offset = .ok (min offset (text.utf8ByteSize - 1)) := by
  simp [lastPlace, difference, Nat.one_le_iff_ne_zero.mpr nonempty]

theorem lastPlace_lt (nonempty : text.utf8ByteSize ≠ 0) (offset : Nat) :
    min offset (text.utf8ByteSize - 1) < (bytes text).length := by
  rw [length_bytes]
  omega

theorem before_eq_nil (empty : text.utf8ByteSize = 0) (position : Nat) :
    before text position = [] := by
  rw [before_min, empty, Nat.min_zero]
  rfl

end

/-! ## Quotes -/

def isEscaped (text : String) (i : Nat) : Access Bool :=
  if i = 0 then
    return false
  else do
    let ⟨place, _⟩ ← difference i 1
    return (← byteAt text place) == backslash

def isPlainQuote (text : String) (i : Nat) (b : UInt8) : Access Bool :=
  if b == quote then do
    return !(← isEscaped text i)
  else
    return false

def quoteStep (text : String) (i count : Nat) : Access (Step Nat Nat) := do
  let b ← byteAt text i
  if b == newline then
    return .done count
  else if ← isPlainQuote text i b then
    return .next (← increment text count).1
  else
    return .next count

def quoteCount (text : String) (offset : Nat) : Access Nat :=
  if text.utf8ByteSize = 0 then
    return 0
  else do
    descend (quoteStep text) id (← lastPlace text offset) 0

def inStringAt (text : String) (offset : Nat) : Access Bool := do
  return (← quoteCount text offset) % 2 == 1

theorem isEscaped_eq {text : String} {i : Nat} (bound : i ≤ (bytes text).length) :
    isEscaped text i = .ok (!isUnescaped (before text i)) := by
  cases i with
  | zero => rfl
  | succ i =>
    have here := List.getElem?_eq_getElem bound
    simp [isEscaped, difference_succ, byteAt_eq here, before_succ here, isUnescaped, bne]

theorem isPlainQuote_eq {text : String} {i : Nat} (bound : i ≤ (bytes text).length) (b : UInt8) :
    isPlainQuote text i b = .ok (b == quote && isUnescaped (before text i)) := by
  rw [isPlainQuote, isEscaped_eq bound]
  cases b == quote <;> simp

theorem quoteStep_follows {text : String} {i count : Nat} {b : UInt8}
    (here : (bytes text)[i]? = some b) (room : count + (i + 1) ≤ text.utf8ByteSize) :
    quoteStep text i count = .ok (.done (count + quotesBehind (b :: before text i))) ∨
      ∃ next, quoteStep text i count = .ok (.next next) ∧ next + i ≤ text.utf8ByteSize ∧
        count + quotesBehind (b :: before text i) = next + quotesBehind (before text i) := by
  have bound := (List.getElem?_eq_some_iff.mp here).1
  rw [quoteStep, byteAt_eq here, ok_bind, isPlainQuote_eq bound.le, quotesBehind]
  by_cases line : (b == newline) = true
  · left
    simp [line]
  · right
    cases plain : b == quote && isUnescaped (before text i) with
    | true =>
      refine ⟨count + 1, ?_, by omega, ?_⟩
      · simp [line, increment_eq (show count < text.utf8ByteSize by omega)]
      · rw [if_neg line, if_pos rfl]
        omega
    | false => exact ⟨count, by simp [line], by omega, by simp [line]⟩

theorem quoteCount_eq (text : String) (offset : Nat) :
    quoteCount text offset = .ok (Text.quoteCount text offset) := by
  rw [quoteCount, Text.quoteCount]
  split
  · rename_i empty
    rw [before_eq_nil empty]
    rfl
  · rename_i nonempty
    have bound := lastPlace_lt nonempty offset
    have walk := descend_eq (s := 0) (quoteStep text) id
      (fun count behind => count + quotesBehind behind)
      (fun left count => count + left ≤ text.utf8ByteSize) (fun _ => rfl)
      (fun i b count => quoteStep_follows) bound (by rw [← length_bytes]; omega)
    rw [lastPlace_eq nonempty, ok_bind, before_succ_min, walk, Nat.zero_add]

theorem inStringAt_eq (text : String) (offset : Nat) :
    inStringAt text offset = .ok (Text.inStringAt text offset) := by
  rw [inStringAt, quoteCount_eq]
  rfl

/-! ## Identifiers around a place -/

def leftEdge (text : String) (start : Nat) : Access Nat :=
  if start = 0 then
    return start
  else do
    let ⟨place, _⟩ ← difference start 1
    if isIdentByte (← byteAt text place) then leftEdge text place else return start
termination_by start
decreasing_by omega

def rightEdge (text : String) (stop : Nat) : Access Nat :=
  if stop < text.utf8ByteSize then do
    if isIdentByte (← byteAt text stop) then
      let ⟨next, _⟩ ← increment text stop
      rightEdge text next
    else
      return stop
  else
    return stop
termination_by text.utf8ByteSize - stop
decreasing_by omega

def identifierAround (text : String) (boundary : Nat) : Access String := do
  let boundary := min boundary text.utf8ByteSize
  let start ← leftEdge text boundary
  let stop ← rightEdge text boundary
  -- the boundary may lie inside of a character, where not even an empty piece can be cut out
  if start = stop then return "" else slice text start stop

/-- The sum cannot fail: where numbers end it stays at the largest one, and that is as far behind the
text as the sum. -/
def identifierAt (text : String) (offset : Nat) : Access String :=
  identifierAround text (offset + 1)

theorem between_self (text : String) (n : Nat) : between text n n = [] := by
  simp [between]

theorem between_succ {text : String} {start stop : Nat} {b : UInt8} (le : start ≤ stop)
    (here : (bytes text)[stop]? = some b) :
    between text start (stop + 1) = between text start stop ++ [b] := by
  have bound := (List.getElem?_eq_some_iff.mp here).1
  rw [between, List.take_add_one, here, List.drop_append_of_le_length]
  · rfl
  · rw [List.length_take]
    omega

structure RunBefore (text : String) (start stop : Nat) : Prop where
  le : start ≤ stop
  run : (before text stop).takeWhile isIdentByte = (between text start stop).reverse

theorem RunBefore.zero (text : String) : RunBefore text 0 0 :=
  ⟨Nat.le_refl 0, by rw [between_self]; rfl⟩

theorem RunBefore.succ {text : String} {start stop : Nat} {b : UInt8}
    (before : RunBefore text start stop) (here : (bytes text)[stop]? = some b) (ident : isIdentByte b = true) :
    RunBefore text start (stop + 1) where
  le := Nat.le_succ_of_le before.le
  run := by
    rw [before_succ here, List.takeWhile_cons_of_pos ident, before.run, between_succ before.le here,
      List.reverse_concat]

theorem RunBefore.empty {text : String} {n : Nat} {b : UInt8} (here : (bytes text)[n]? = some b)
    (other : isIdentByte b = false) : RunBefore text (n + 1) (n + 1) where
  le := Nat.le_refl _
  run := by
    rw [before_succ here, List.takeWhile_cons_of_neg (by simp [other]), between_self, List.reverse_nil]

theorem RunBefore.isIdentByte {text : String} {start stop : Nat} (before : RunBefore text start stop) :
    ∀ b ∈ between text start stop, isIdentByte b = true :=
  fun _ member => List.mem_takeWhile_imp (before.run ▸ List.mem_reverse.mpr member)

theorem leftEdge_eq {text : String} {n : Nat} (bound : n ≤ (bytes text).length) :
    ∃ start, leftEdge text n = .ok start ∧ RunBefore text start n := by
  induction n with
  | zero => exact ⟨0, by rw [leftEdge]; rfl, .zero text⟩
  | succ n ih =>
    have here := List.getElem?_eq_getElem bound
    rw [leftEdge]
    cases ident : isIdentByte (bytes text)[n] with
    | true =>
      obtain ⟨start, edge, run⟩ := ih (Nat.le_of_succ_le bound)
      exact ⟨start, by simp [difference_succ, byteAt_eq here, ident, edge], run.succ here ident⟩
    | false =>
      exact ⟨n + 1, by simp [difference_succ, byteAt_eq here, ident], .empty here ident⟩

theorem rightEdge_eq {text : String} {n : Nat} (bound : n ≤ (bytes text).length) :
    ∃ stop, n ≤ stop ∧ stop ≤ (bytes text).length ∧ rightEdge text n = .ok stop ∧
      (after text n).takeWhile isIdentByte = between text n stop := by
  induction left : (bytes text).length - n generalizing n with
  | zero =>
    have past : ¬ n < text.utf8ByteSize := by
      rw [← length_bytes]
      omega
    refine ⟨n, Nat.le_refl n, bound, by simp [rightEdge, past], ?_⟩
    rw [between_self, after, List.drop_of_length_le (by omega), List.takeWhile_nil]
  | succ left ih =>
    have inside : n < (bytes text).length := by omega
    have here := List.getElem?_eq_getElem inside
    rw [after, List.drop_eq_getElem_cons inside, rightEdge, if_pos (length_bytes text ▸ inside)]
    cases ident : isIdentByte (bytes text)[n] with
    | true =>
      obtain ⟨stop, above, below, edge, run⟩ := ih (n := n + 1) inside (by omega)
      refine ⟨stop, Nat.le_of_succ_le above, below, ?_, ?_⟩
      · simp [byteAt_eq here, ident, increment_eq (length_bytes text ▸ inside), edge]
      · have first := between_succ (Nat.le_refl n) here
        rw [between_self, List.nil_append] at first
        rw [List.takeWhile_cons_of_pos ident, ← after, run, ← List.singleton_append, ← first,
          between_append (Nat.le_succ n) above]
    | false =>
      refine ⟨n, Nat.le_refl n, bound, by simp [byteAt_eq here, ident], ?_⟩
      rw [List.takeWhile_cons_of_neg (by simp [ident]), between_self]

theorem identifierAround_eq (text : String) (boundary : Nat) :
    identifierAround text boundary = .ok (Text.identifierAround text boundary) := by
  have bound : min boundary text.utf8ByteSize ≤ (bytes text).length := by
    rw [length_bytes]
    exact Nat.min_le_right _ _
  obtain ⟨start, left, run⟩ := leftEdge_eq bound
  obtain ⟨stop, above, below, right, run'⟩ := rightEdge_eq bound
  have le := run.le
  have whole : between text start _ ++ between text _ stop = between text start stop :=
    between_append le above
  rw [Text.identifierAround, before_min, after_min, run.run, run', List.reverse_reverse, whole]
  simp only [identifierAround, left, right, ok_bind]
  split
  · rename_i same
    rw [same, between_self]
    rfl
  · apply slice_word (by omega) below
    intro b member
    rw [← whole, List.mem_append] at member
    rcases member with first | second
    · exact run.isIdentByte b first
    · exact List.mem_takeWhile_imp (run' ▸ second)

theorem identifierAt_eq (text : String) (offset : Nat) :
    identifierAt text offset = .ok (Text.identifierAt text offset) :=
  identifierAround_eq text (offset + 1)

/-! ## Identifiers before a place -/

/-- The walk back over white space and one identifier, as the two ends of the identifier. The places
are signed, since the walk may end before the first byte. -/
def endingSpan (text : String) (i right : Int) (left : Option Int) : Access (Option (Int × Int)) :=
  if 0 ≤ i then do
    let b ← byteAt text (← natural i)
    if isAsciiBlank b then
      if left.isSome then return left.map (·, right) else endingSpan text (i - 1) i left
    else if isIdentByte b then
      endingSpan text (i - 1) right (some i)
    else
      return left.map (·, right)
  else
    return left.map (·, right)
termination_by (i + 1).toNat
decreasing_by all_goals omega

def identifierBefore (text : String) (offset : Nat) : Access (Option String) :=
  if text.utf8ByteSize = 0 then
    return none
  else do
    let i ← lastPlace text offset
    let ⟨right, _⟩ ← increment text i
    match ← endingSpan text i right none with
    | none => return none
    | some (start, stop) => return some (← slice text (← natural start) (← natural stop))

section
variable {text : String}

theorem endingSpan_before_first (right : Int) (left : Option Int) :
    endingSpan text (-1) right left = .ok (left.map (·, right)) := by
  rw [endingSpan]
  simp

theorem endingSpan_ident {n : Nat} {b : UInt8} (here : (bytes text)[n]? = some b)
    (ident : isIdentByte b = true) (right : Int) (left : Option Int) :
    endingSpan text n right left = endingSpan text (n - 1) right (some n) := by
  rw [endingSpan]
  simp [natural_ofNat, byteAt_eq here, isAsciiBlank_of_isIdentByte ident, ident]

theorem endingSpan_other {n : Nat} {b : UInt8} (here : (bytes text)[n]? = some b)
    (other : isIdentByte b = false) (right left : Int) :
    endingSpan text n right (some left) = .ok (some (left, right)) := by
  rw [endingSpan]
  simp [natural_ofNat, byteAt_eq here, other]

theorem endingSpan_blank {n : Nat} {b : UInt8} (here : (bytes text)[n]? = some b)
    (blank : isAsciiBlank b = true) (right : Int) :
    endingSpan text n right none = endingSpan text (n - 1) n none := by
  rw [endingSpan]
  simp [natural_ofNat, byteAt_eq here, blank]

theorem endingSpan_stop {n : Nat} {b : UInt8} (here : (bytes text)[n]? = some b)
    (noBlank : isAsciiBlank b = false) (noIdent : isIdentByte b = false) (right : Int) :
    endingSpan text n right none = .ok none := by
  rw [endingSpan]
  simp [natural_ofNat, byteAt_eq here, noBlank, noIdent]

theorem cast_succ_sub_one (n : Nat) : ((n + 1 : Nat) : Int) - 1 = n := by
  omega

theorem endingSpan_within {n : Nat} (bound : n ≤ (bytes text).length) (right : Int) :
    ∃ start, endingSpan text (n - 1) right (some n) = .ok (some (Int.ofNat start, right)) ∧
      RunBefore text start n := by
  induction n with
  | zero => exact ⟨0, endingSpan_before_first right (some 0), .zero text⟩
  | succ n ih =>
    have here := List.getElem?_eq_getElem bound
    rw [cast_succ_sub_one]
    cases ident : isIdentByte (bytes text)[n] with
    | true =>
      obtain ⟨start, span, run⟩ := ih (Nat.le_of_succ_le bound)
      exact ⟨start, by rw [endingSpan_ident here ident, span], run.succ here ident⟩
    | false => exact ⟨n + 1, endingSpan_other here ident right _, .empty here ident⟩

theorem endingSpan_eq {n : Nat} (bound : n ≤ (bytes text).length) :
    endingSpan text (n - 1) n none = .ok none ∧ identifierEnding (before text n) = none ∨
      ∃ start stop, endingSpan text (n - 1) n none = .ok (some (Int.ofNat start, Int.ofNat stop)) ∧
        start < stop ∧ stop ≤ (bytes text).length ∧
        (∀ b ∈ between text start stop, isIdentByte b = true) ∧
        identifierEnding (before text n) = some (ofAscii (between text start stop)) := by
  induction n with
  | zero => exact .inl ⟨endingSpan_before_first 0 none, rfl⟩
  | succ n ih =>
    have here := List.getElem?_eq_getElem bound
    rw [cast_succ_sub_one]
    cases blank : isAsciiBlank (bytes text)[n] with
    | true =>
      have skipped : identifierEnding (before text (n + 1)) = identifierEnding (before text n) := by
        rw [before_succ here, identifierEnding, List.dropWhile_cons_of_pos blank, ← identifierEnding]
      rw [endingSpan_blank here blank, skipped]
      exact ih (Nat.le_of_succ_le bound)
    | false =>
      have kept : (before text (n + 1)).dropWhile isAsciiBlank = before text (n + 1) := by
        rw [before_succ here, List.dropWhile_cons_of_neg (by simp [blank])]
      cases ident : isIdentByte (bytes text)[n] with
      | true =>
        obtain ⟨start, span, run⟩ := endingSpan_within (Nat.le_of_succ_le bound) (n + 1 : Nat)
        have run' := run.succ here ident
        refine .inr ⟨start, n + 1, ?_, Nat.lt_succ_of_le run.le, bound, run'.isIdentByte, ?_⟩
        · rw [endingSpan_ident here ident, span]
          rfl
        · have nonempty : (between text start (n + 1)).reverse ≠ [] := by
            rw [between_succ run.le here, List.reverse_concat]
            exact List.cons_ne_nil _ _
          rw [identifierEnding_of_run nonempty (by rw [kept, run'.run]), List.reverse_reverse]
      | false =>
        refine .inl ⟨endingSpan_stop here blank ident _, ?_⟩
        rw [identifierEnding, kept, before_succ here, List.takeWhile_cons_of_neg (by simp [ident])]

theorem identifierBefore_eq (text : String) (offset : Nat) :
    identifierBefore text offset = .ok (Text.identifierBefore text offset) := by
  rw [identifierBefore, Text.identifierBefore]
  split
  · rename_i empty
    rw [before_eq_nil empty]
    rfl
  · rename_i nonempty
    have bound := lastPlace_lt nonempty offset
    have room := length_bytes text ▸ bound
    rw [lastPlace_eq nonempty, ok_bind, increment_eq room, ok_bind, before_succ_min]
    dsimp only
    have walk := endingSpan_eq (n := min offset (text.utf8ByteSize - 1) + 1) bound
    rw [cast_succ_sub_one] at walk
    rcases walk with ⟨span, missing⟩ | ⟨start, stop, span, lt, le, ident, found⟩
    · rw [missing, span]
      rfl
    · rw [found, span, ok_bind]
      simp [natural, slice_word lt le ident]

end

/-! ## Character boundaries -/

def floorDown (text : String) (i : Nat) : Access Nat :=
  if IsBoundary text i then
    return i
  else do
    let ⟨place, _⟩ ← difference i 1
    floorDown text place
termination_by i
decreasing_by omega

def floorBoundary (text : String) (offset : Nat) : Access Nat :=
  floorDown text (min offset text.utf8ByteSize)

theorem floorBoundary_of_isBoundary {text : String} {i : Nat} (boundary : IsBoundary text i)
    (bound : i ≤ text.utf8ByteSize) : Text.floorBoundary text i = i := by
  apply (isGreatest_floorBoundary text i).unique
  exact ⟨⟨boundary, by omega⟩, fun b lower => le_trans lower.2 (Nat.min_le_left _ _)⟩

theorem floorBoundary_succ {text : String} {i : Nat} (inside : ¬ IsBoundary text (i + 1)) :
    Text.floorBoundary text (i + 1) = Text.floorBoundary text i := by
  obtain ⟨⟨boundary, below⟩, greatest⟩ := isGreatest_floorBoundary text i
  apply (isGreatest_floorBoundary text (i + 1)).unique
  refine ⟨⟨boundary, by omega⟩, ?_⟩
  rintro b ⟨boundary', le⟩
  have other : b ≠ i + 1 := fun same => inside (same ▸ boundary')
  exact greatest ⟨boundary', by omega⟩

theorem floorDown_eq {text : String} {i : Nat} (bound : i ≤ text.utf8ByteSize) :
    floorDown text i = .ok (Text.floorBoundary text i) := by
  induction i with
  | zero =>
    have start : IsBoundary text 0 := isBoundary_iff.mpr ⟨[], text.toList, rfl, rfl⟩
    rw [floorDown, if_pos start, floorBoundary_of_isBoundary start bound]
    rfl
  | succ i ih =>
    rw [floorDown]
    split
    · rename_i boundary
      rw [floorBoundary_of_isBoundary boundary bound]
      rfl
    · rename_i inside
      rw [difference_succ, ok_bind, floorBoundary_succ inside]
      exact ih (Nat.le_of_succ_le bound)

theorem floorBoundary_eq (text : String) (offset : Nat) :
    floorBoundary text offset = .ok (Text.floorBoundary text offset) := by
  rw [floorBoundary, floorDown_eq (Nat.min_le_right _ _)]
  congr 1
  apply (isGreatest_floorBoundary text _).unique
  simpa using isGreatest_floorBoundary text offset

end NoxAssist.Access
