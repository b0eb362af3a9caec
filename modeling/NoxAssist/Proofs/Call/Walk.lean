import NoxAssist.Call
import NoxAssist.Proofs.Text.Literal

/-!
# The steps of the walk back to a call

What the walk does at one byte is said once, by `locateBehind_cons`: either it ends there, or it
goes on with a new string state, a new depth and perhaps one comma more. `visits` lists the bytes
that the walk comes to with its state at each of them, and `locateBehind_eq_callOf` reads the call
off that list: its name stands before the last byte visited, and its argument is the number of the
commas counted.
-/

namespace NoxAssist.Call
open Text

def nextInside (inside : Bool) (b : UInt8) (behind : List UInt8) : Bool :=
  if inside then !leavesLiteral b behind else b == quote

def nextDepth (inside : Bool) (depth : Nat) (b : UInt8) : Nat :=
  if inside then depth
  else if b == openParen then depth - 1
  else if b == closeParen then depth + 1
  else depth

def counts (inside : Bool) (depth : Nat) (b : UInt8) : Bool :=
  !inside && b == comma && depth == 0

def opensList (inside : Bool) (depth : Nat) (b : UInt8) : Bool :=
  !inside && b == openParen && depth == 0

def ends (inside : Bool) (depth : Nat) (b : UInt8) (behind : List UInt8) : Bool :=
  (!inside && b == semicolon) || (opensList inside depth b && (identifierEnding behind).isSome)

theorem locateBehind_cons (inside : Bool) (depth commas : Nat) (b : UInt8) (behind : List UInt8) :
    locateBehind inside depth commas (b :: behind) =
      if ends inside depth b behind then
        if opensList inside depth b then (identifierEnding behind).map (⟨·, commas⟩) else none
      else
        locateBehind (nextInside inside b behind) (nextDepth inside depth b)
          (commas + (counts inside depth b).toNat) behind := by
  cases inside with
  | true => simp [locateBehind, ends, opensList, nextInside, nextDepth, counts]
  | false =>
    rw [locateBehind.eq_def]
    dsimp only
    by_cases atSemicolon : b = semicolon
    · subst atSemicolon
      simp [ends, opensList, semicolon, openParen]
    by_cases atQuote : b = quote
    · subst atQuote
      simp [ends, opensList, nextInside, nextDepth, counts, quote, semicolon, openParen, closeParen,
        comma]
    by_cases atOpen : b = openParen
    · subst atOpen
      cases depth with
      | zero =>
        cases name : identifierEnding behind <;>
          simp [name, ends, opensList, nextInside, nextDepth, counts, openParen, semicolon, quote,
            comma]
      | succ depth =>
        simp [ends, opensList, nextInside, nextDepth, counts, openParen, semicolon, quote, comma]
    by_cases atClose : b = closeParen
    · subst atClose
      simp [ends, opensList, nextInside, nextDepth, counts, closeParen, openParen, semicolon, quote,
        comma]
    have noQuote : (b == quote) = false := beq_eq_false_iff_ne.mpr atQuote
    by_cases atComma : b = comma
    · cases depth <;>
        simp [ends, opensList, nextInside, nextDepth, counts, atComma, comma, semicolon, quote,
          openParen, closeParen]
    · simp [ends, opensList, nextInside, nextDepth, counts, atSemicolon, noQuote, atOpen, atClose,
        beq_eq_false_iff_ne.mpr atComma]

/-- A byte that the walk comes to, with its state there and the bytes still to visit. -/
structure Visit where
  inside : Bool
  depth : Nat
  byte : UInt8
  behind : List UInt8

def Visit.offset (v : Visit) : Nat :=
  v.behind.length

def Visit.counts (v : Visit) : Bool :=
  Call.counts v.inside v.depth v.byte

def Visit.opensList (v : Visit) : Bool :=
  Call.opensList v.inside v.depth v.byte

def visits (inside : Bool) (depth : Nat) : List UInt8 → List Visit
  | [] => []
  | b :: behind =>
    ⟨inside, depth, b, behind⟩ ::
      if ends inside depth b behind then []
      else visits (nextInside inside b behind) (nextDepth inside depth b) behind

def callOf (commas : Nat) (vs : List Visit) : Option Call :=
  vs.getLast?.bind fun last =>
    if last.opensList then
      (identifierEnding last.behind).map (⟨·, commas + vs.countP Visit.counts⟩)
    else
      none

theorem visits_ne_nil (inside : Bool) (depth : Nat) {bytes : List UInt8} (nonempty : bytes ≠ []) :
    visits inside depth bytes ≠ [] := by
  cases bytes with
  | nil => exact absurd rfl nonempty
  | cons b behind => simp [visits]

theorem counts_of_ends {inside : Bool} {depth : Nat} {b : UInt8} {behind : List UInt8}
    (stop : ends inside depth b behind = true) : counts inside depth b = false := by
  by_cases atComma : b = comma
  · subst atComma
    simp [ends, opensList, comma, semicolon, openParen] at stop
  · simp [counts, atComma]

theorem callOf_cons (commas : Nat) (v : Visit) {vs : List Visit} (more : vs ≠ []) :
    callOf commas (v :: vs) = callOf (commas + v.counts.toNat) vs := by
  obtain ⟨last, rest⟩ := List.getLast?_isSome.mpr more |> Option.isSome_iff_exists.mp
  have total : commas + (v :: vs).countP Visit.counts =
      commas + v.counts.toNat + vs.countP Visit.counts := by
    rw [List.countP_cons]
    cases v.counts
    · rfl
    · exact Nat.add_right_comm commas _ 1
  simp [callOf, List.getLast?_cons, rest, total]

theorem locateBehind_eq_callOf (inside : Bool) (depth commas : Nat) (bytes : List UInt8) :
    locateBehind inside depth commas bytes = callOf commas (visits inside depth bytes) := by
  induction bytes generalizing inside depth commas with
  | nil => rfl
  | cons b behind ih =>
    rw [locateBehind_cons, visits]
    by_cases stop : ends inside depth b behind = true
    · rw [if_pos stop, if_pos stop]
      simp [callOf, Visit.opensList, Visit.counts, counts_of_ends stop]
    · rw [if_neg stop, if_neg stop, ih]
      by_cases rest : behind = []
      · -- the walk runs out of bytes at a parenthesis, which cannot have a name before it
        subst rest
        simp [visits, callOf, identifierEnding]
      · exact (callOf_cons commas ⟨inside, depth, b, behind⟩ (visits_ne_nil _ _ rest)).symm

theorem callOf_eq_some {commas : Nat} {vs : List Visit} {call : Call}
    (found : callOf commas vs = some call) :
    ∃ stop, vs.getLast? = some stop ∧ stop.opensList = true ∧
      identifierEnding stop.behind = some call.name ∧
      call.argument = commas + vs.countP Visit.counts := by
  obtain ⟨stop, last, found⟩ := Option.bind_eq_some_iff.mp found
  split at found
  · rename_i opens
    obtain ⟨name, ending, rfl⟩ := Option.map_eq_some_iff.mp found
    exact ⟨stop, last, opens, ending, rfl⟩
  · cases found

theorem suffix_of_mem_visits {inside : Bool} {depth : Nat} {bytes : List UInt8} {v : Visit}
    (member : v ∈ visits inside depth bytes) : v.byte :: v.behind <:+ bytes := by
  induction bytes generalizing inside depth with
  | nil => cases member
  | cons b behind ih =>
    rcases List.mem_cons.mp member with rfl | later
    · exact List.suffix_rfl
    · split at later
      · cases later
      · exact (ih later).trans (List.suffix_cons _ _)

theorem located_of_mem_visits {text : String} {position : Nat} {inside : Bool} {depth : Nat}
    {v : Visit} (member : v ∈ visits inside depth (before text position)) :
    (bytes text)[v.offset]? = some v.byte ∧ before text v.offset = v.behind := by
  have suffix := suffix_of_mem_visits member
  have whole : v.byte :: v.behind = before text (v.offset + 1) := eq_before_of_suffix suffix
  have rest : v.behind = before text v.offset :=
    eq_before_of_suffix ((List.suffix_cons _ _).trans suffix)
  have bound : v.offset < (bytes text).length := by
    have size := congrArg List.length whole
    rw [before, List.length_reverse, List.length_take, List.length_cons] at size
    change v.offset + 1 = _ at size
    omega
  have here := List.getElem?_eq_getElem bound
  rw [before_succ here, List.cons.injEq] at whole
  exact ⟨by rw [here, whole.1], rest.symm⟩

end NoxAssist.Call
