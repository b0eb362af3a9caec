import NoxAssist.Proofs.Call.Walk

namespace NoxAssist.Call
open Text

/-- The walk from byte `i - 1` back that carries no string state along: whether a byte lies in a
literal is asked of `inStringAt`, and a quote itself does nothing. -/
def locateByParity (text : String) (depth commas : Nat) : Nat → Option Call
  | 0 => none
  | i + 1 =>
    let b := (bytes text).getD i 0
    let inside := b == quote || inStringAt text i
    if ends inside depth b (before text i) then
      if opensList inside depth b then
        (identifierEnding (before text i)).map (⟨·, commas⟩)
      else
        none
    else
      locateByParity text (nextDepth inside depth b) (commas + (counts inside depth b).toNat) i

def visited (text : String) (offset : Nat) : List Visit :=
  visits (inStringAt text offset) 0 (before text (offset + 1))

/-- Byte `i` keeps the walk and the parity together: it is no newline behind an open literal and no
escaped quote outside of literals. -/
def Settled (text : String) (i : Nat) : Prop :=
  ((bytes text)[i]? = some newline → 0 < i → inStringAt text (i - 1) = false) ∧
  ((bytes text)[i]? = some quote → 0 < i → (bytes text)[i - 1]? = some backslash →
    inStringAt text i = true)

instance (text : String) (i : Nat) : Decidable (Settled text i) :=
  inferInstanceAs (Decidable (_ ∧ _))

theorem inLiteral_before (text : String) (i : Nat) :
    inLiteral (before text i) = (decide (0 < i) && inStringAt text (i - 1)) := by
  cases i with
  | zero => rfl
  | succ i => simp [inStringAt_eq_inLiteral]

section Settled
variable {text : String} {i : Nat}

theorem settled_newline (here : (bytes text)[i]? = some newline) :
    Settled text i ↔ inLiteral (before text i) = false := by
  have noQuote : (bytes text)[i]? ≠ some quote := by
    rw [here]
    decide
  rw [inLiteral_before]
  constructor
  · intro settled
    by_cases positive : 0 < i
    · simp [settled.1 here positive]
    · simp [positive]
  · intro closed
    refine ⟨fun _ positive => ?_, fun quoted => absurd quoted noQuote⟩
    simpa [positive] using closed

theorem settled_unescaped (here : (bytes text)[i]? = some quote)
    (unescaped : isUnescaped (before text i) = true) : Settled text i := by
  have bound : i ≤ (bytes text).length := (List.getElem?_eq_some_iff.mp here).1.le
  refine ⟨fun line => absurd (here.symm.trans line) (by decide), fun _ positive escape => ?_⟩
  rw [(isUnescaped_before bound).mpr ⟨positive, escape⟩] at unescaped
  cases unescaped

theorem settled_escaped (here : (bytes text)[i]? = some quote)
    (escaped : isUnescaped (before text i) = false) :
    Settled text i ↔ inStringAt text i = true := by
  have bound : i ≤ (bytes text).length := (List.getElem?_eq_some_iff.mp here).1.le
  obtain ⟨positive, escape⟩ := (isUnescaped_before bound).mp escaped
  constructor
  · intro settled
    exact settled.2 here positive escape
  · intro inside
    exact ⟨fun line => absurd (here.symm.trans line) (by decide), fun _ _ _ => inside⟩

theorem settled_other {b : UInt8} (here : (bytes text)[i]? = some b) (noNewline : b ≠ newline)
    (noQuote : b ≠ quote) : Settled text i :=
  ⟨fun line => absurd (Option.some.inj (here.symm.trans line)) noNewline,
    fun quoted => absurd (Option.some.inj (here.symm.trans quoted)) noQuote⟩

theorem nextInside_eq_iff {b : UInt8} (here : (bytes text)[i]? = some b) :
    nextInside (inStringAt text i) b (before text i) = inLiteral (before text i) ↔ Settled text i := by
  have now : inStringAt text i = inLiteral (b :: before text i) := by
    rw [inStringAt_eq_inLiteral, before_succ here]
  by_cases atNewline : b = newline
  · subst atNewline
    rw [settled_newline here, now, inLiteral_newline]
    exact eq_comm
  by_cases atQuote : b = quote
  · subst atQuote
    cases unescaped : isUnescaped (before text i) with
    | true =>
      have settled := settled_unescaped here unescaped
      rw [now, inLiteral_unescaped unescaped]
      cases inLiteral (before text i) <;> simp [nextInside, leavesLiteral, unescaped, settled]
    | false =>
      have stays : leavesLiteral quote (before text i) = false := by
        simp [leavesLiteral, unescaped, quote, newline]
      rw [settled_escaped here unescaped, now, inLiteral_escaped unescaped]
      cases inLiteral (before text i) <;> simp [nextInside, stays]
  · have settled := settled_other here atNewline atQuote
    have stays : leavesLiteral b (before text i) = false := by
      simp [leavesLiteral, atNewline, atQuote]
    rw [now, inLiteral_other _ atNewline atQuote]
    cases inLiteral (before text i) <;> simp [nextInside, stays, atQuote, settled]

theorem settled_of_ends {b : UInt8} (here : (bytes text)[i]? = some b) {inside : Bool} {depth : Nat}
    {behind : List UInt8} (stop : ends inside depth b behind = true) : Settled text i := by
  apply settled_other here <;> rintro rfl <;>
    simp [ends, opensList, newline, quote, semicolon, openParen] at stop

end Settled

theorem visits_before {text : String} {i : Nat} {b : UInt8} (here : (bytes text)[i]? = some b)
    (inside : Bool) (depth : Nat) :
    visits inside depth (before text (i + 1)) = ⟨inside, depth, b, before text i⟩ ::
      if ends inside depth b (before text i) then []
      else visits (nextInside inside b (before text i)) (nextDepth inside depth b) (before text i) := by
  rw [before_succ here, visits]

theorem visits_agree_iff {text : String} {i : Nat} (bound : i ≤ (bytes text).length) {inside : Bool}
    (depth : Nat) (seed : inside = inLiteral (before text i)) :
    (∀ v ∈ visits inside depth (before text i), v.inside = inStringAt text v.offset) ↔
      ∀ v ∈ visits inside depth (before text i), Settled text v.offset := by
  induction i generalizing inside depth with
  | zero => simp [before, visits]
  | succ i ih =>
    obtain ⟨b, here⟩ : ∃ b, (bytes text)[i]? = some b := ⟨_, List.getElem?_eq_getElem bound⟩
    have offset : Visit.offset ⟨inside, depth, b, before text i⟩ = i := length_before (by omega)
    have now : inside = inStringAt text i := seed
    rw [visits_before here]
    simp only [List.forall_mem_cons, offset]
    by_cases stop : ends inside depth b (before text i) = true
    · rw [if_pos stop]
      exact ⟨fun _ => ⟨settled_of_ends here stop, by simp⟩, fun _ => ⟨now, by simp⟩⟩
    rw [if_neg stop]
    by_cases settled : Settled text i
    · have next := (nextInside_eq_iff here).mpr settled
      rw [← now] at next
      rw [ih (by omega) _ next]
      exact ⟨fun agree => ⟨settled, agree.2⟩, fun all => ⟨now, all.2⟩⟩
    · -- the state is wrong at the next byte, which is visited because byte `i` is not the first one
      refine ⟨fun agree => absurd ?_ settled, fun all => absurd all.1 settled⟩
      rw [← nextInside_eq_iff here, ← now]
      cases i with
      | zero => exact absurd (by simp [Settled]) settled
      | succ i =>
        obtain ⟨c, there⟩ : ∃ c, (bytes text)[i]? = some c :=
          ⟨_, List.getElem?_eq_getElem (by omega)⟩
        have first := agree.2 _ (by rw [visits_before there]; exact List.mem_cons_self)
        exact first.trans (congrArg (inStringAt text) (length_before (by omega)))

theorem locateBehind_eq_locateByParity {text : String} {i : Nat} (bound : i ≤ (bytes text).length)
    (inside : Bool) (depth commas : Nat)
    (agree : ∀ v ∈ visits inside depth (before text i), v.byte ≠ quote →
      v.inside = inStringAt text v.offset) :
    locateBehind inside depth commas (before text i) = locateByParity text depth commas i := by
  induction i generalizing inside depth commas with
  | zero => rfl
  | succ i ih =>
    obtain ⟨b, here⟩ : ∃ b, (bytes text)[i]? = some b := ⟨_, List.getElem?_eq_getElem bound⟩
    have offset : Visit.offset ⟨inside, depth, b, before text i⟩ = i := length_before (by omega)
    have byte : (bytes text).getD i 0 = b := by rw [List.getD_eq_getElem?_getD, here, Option.getD_some]
    rw [visits_before here] at agree
    rw [before_succ here, locateBehind_cons, locateByParity]
    simp only [byte]
    by_cases atQuote : b = quote
    · -- a quote changes the string state and nothing else
      subst atQuote
      have passes (state : Bool) : ends state depth quote (before text i) = false ∧
          nextDepth state depth quote = depth ∧ counts state depth quote = false := by
        cases state <;>
          simp [ends, opensList, nextDepth, counts, quote, semicolon, openParen, closeParen, comma]
      obtain ⟨goes, deep, uncounted⟩ := passes inside
      rw [goes, deep] at agree
      simp only [goes, deep, uncounted, passes true, BEq.rfl, Bool.true_or, Bool.false_eq_true, if_false]
      exact ih (by omega) _ _ _ fun v member => agree v (List.mem_cons_of_mem _ member)
    · have now : inside = inStringAt text i := by
        rw [← offset]
        exact agree _ List.mem_cons_self atQuote
      rw [← now, beq_eq_false_iff_ne.mpr atQuote, Bool.false_or]
      by_cases stop : ends inside depth b (before text i) = true
      · rw [if_pos stop, if_pos stop]
      · rw [if_neg stop] at agree
        rw [if_neg stop, if_neg stop]
        exact ih (by omega) _ _ _ fun v member => agree v (List.mem_cons_of_mem _ member)

/-- The walk is in a literal exactly where the parity of quotes says so, if and only if it comes to
settled bytes only; and as long as the two agree outside of quotes, the call found is the one that is
found by asking for the parity, and its parenthesis and commas lie in no literal. -/
theorem locate_eq_locateByParity (text : String) (offset : Nat) :
    ((∀ v ∈ visited text offset, v.inside = inStringAt text v.offset) ↔
      ∀ v ∈ visited text offset, Settled text v.offset) ∧
    ((∀ v ∈ visited text offset, v.byte ≠ quote → v.inside = inStringAt text v.offset) →
      locate text offset = locateByParity text 0 0 (min (offset + 1) text.utf8ByteSize) ∧
      ∀ call, locate text offset = some call →
        (∃ stop, (visited text offset).getLast? = some stop ∧
          (bytes text)[stop.offset]? = some openParen ∧
          identifierEnding (before text stop.offset) = some call.name ∧
          inStringAt text stop.offset = false) ∧
        call.argument = ((visited text offset).filter Visit.counts).length ∧
        ∀ v ∈ (visited text offset).filter Visit.counts,
          (bytes text)[v.offset]? = some comma ∧ inStringAt text v.offset = false) := by
  have bound : min (offset + 1) text.utf8ByteSize ≤ (bytes text).length := by
    rw [length_bytes]
    exact Nat.min_le_right _ _
  have start : visited text offset =
      visits (inStringAt text offset) 0 (before text (min (offset + 1) text.utf8ByteSize)) := by
    rw [← before_min]
    rfl
  constructor
  · rw [start]
    refine visits_agree_iff bound 0 ?_
    rw [← before_min]
    rfl
  intro agree
  constructor
  · rw [locate, before_min]
    exact locateBehind_eq_locateByParity bound _ 0 0 (start ▸ agree)
  intro call found
  rw [locate, locateBehind_eq_callOf] at found
  obtain ⟨stop, last, opens, ending, argument⟩ := callOf_eq_some found
  -- in a counted comma and in the parenthesis the walk is outside of literals
  simp only [Visit.opensList, opensList, Bool.and_eq_true, Bool.not_eq_true', beq_iff_eq] at opens
  have member : stop ∈ visited text offset := List.mem_of_getLast? last
  obtain ⟨here, behind⟩ := located_of_mem_visits member
  rw [opens.1.2] at here
  rw [← behind] at ending
  refine ⟨⟨stop, last, here, ending, ?_⟩, ?_, ?_⟩
  · rw [← agree stop member (by rw [opens.1.2]; decide), opens.1.1]
  · rw [argument, Nat.zero_add, List.countP_eq_length_filter]
    rfl
  · intro v member
    obtain ⟨member, counted⟩ := List.mem_filter.mp member
    simp only [Visit.counts, counts, Bool.and_eq_true, Bool.not_eq_true', beq_iff_eq] at counted
    refine ⟨?_, ?_⟩
    · rw [(located_of_mem_visits member).1, counted.1.2]
    · rw [← agree v member (by rw [counted.1.2]; decide), counted.1.1]

/-- With a literal left open on an earlier line, or an escaped quote in code, the walk goes wrong:
here it stops at a parenthesis in a literal, and here it takes code for a literal. -/
theorem locate_ne_locateByParity_open_line :
    (locate "f(\"g(1\n" 6 ≠ locateByParity "f(\"g(1\n" 0 0 7 ∧
      locate "f(\"g(1\n" 6 = some ⟨"g", 0⟩ ∧ inStringAt "f(\"g(1\n" 4 = true) ∧
    locate "f(\\\",x" 5 ≠ locateByParity "f(\\\",x" 0 0 6 := by
  decide

theorem locate_eq_locateByParity_two_lines :
    locate "f(\"a,\\\"\",\n\"(" 11 = locateByParity "f(\"a,\\\"\",\n\"(" 0 0 12 ∧
      locate "f(\"a,\\\"\",\n\"(" 11 = some ⟨"f", 1⟩ := by
  refine ⟨((locate_eq_locateByParity "f(\"a,\\\"\",\n\"(" 11).2 fun v member _ => ?_).1, by decide⟩
  exact (locate_eq_locateByParity "f(\"a,\\\"\",\n\"(" 11).1.mpr (by decide) v member

end NoxAssist.Call
