import Mathlib.Algebra.BigOperators.Intervals
import Mathlib.Algebra.Ring.Int.Defs
import Mathlib.Data.Finset.Lattice.Fold
import Mathlib.Data.Nat.Find
import NoxAssist.Proofs.Call.Walk

/-!
# The call around a byte, without a depth counter

The walk to a call counts parentheses up and down and never below zero. Its depth at a byte is
therefore the largest surplus of closing parentheses over any stretch that begins right behind the
byte and ends before the cursor (`excess`, and `excess_step` for one byte of the walk). With it the call
is given by its position alone: it opens at the last parenthesis in code that has a name before it, no
excess behind it and no semicolon between it and the cursor (`locate_iff_opensCall`).
-/

namespace NoxAssist.Call
open Text

section Nesting
variable (text : String) (last : Nat)

/-- In a literal, the walk back leaves it at byte `i`: at a newline or a quote that is not escaped. -/
def LeavesAt (i : Nat) : Prop :=
  (bytes text)[i]? = some newline ∨
    (bytes text)[i]? = some quote ∧ ¬ (0 < i ∧ (bytes text)[i - 1]? = some backslash)

instance : DecidablePred (LeavesAt text) :=
  fun _ => inferInstanceAs (Decidable (_ ∨ _))

/-- Whether the walk back from byte `last` is in a literal once it has passed `passed` bytes. -/
def insideAfter : Nat → Bool
  | 0 => inStringAt text last
  | passed + 1 =>
    let i := last - passed
    if insideAfter passed then !decide (LeavesAt text i) else (bytes text)[i]? == some quote

def IsCode (b : UInt8) (i : Nat) : Prop :=
  (bytes text)[i]? = some b ∧ insideAfter text last (last - i) = false

instance (b : UInt8) : DecidablePred (IsCode text last b) :=
  fun _ => inferInstanceAs (Decidable (_ ∧ _))

def surplus (q r : Nat) : ℤ :=
  ((Finset.Ico q r).filter (IsCode text last closeParen)).card -
    ((Finset.Ico q r).filter (IsCode text last openParen)).card

/-- The largest surplus of a stretch that begins at byte `q` and does not go beyond byte `last`. -/
def excess (q : Nat) : ℤ :=
  (Finset.Icc q (max q (last + 1))).sup' (Finset.nonempty_Icc.mpr (le_max_left _ _))
    (surplus text last q)

/-- The commas in code from byte `q` on that no parenthesis behind them encloses. -/
def listCommas (q : Nat) : Finset Nat :=
  (Finset.Icc q last).filter fun x => IsCode text last comma x ∧ excess text last (x + 1) = 0

structure OpensCall (p : Nat) (name : String) : Prop where
  positive : 1 ≤ p
  le : p ≤ last
  paren : IsCode text last openParen p
  level : excess text last (p + 1) = 0
  named : identifierBefore text (p - 1) = some name
  unbroken : ∀ x, p < x → x ≤ last → ¬ IsCode text last semicolon x

def EndsAt (i : Nat) : Prop :=
  IsCode text last semicolon i ∨
    (IsCode text last openParen i ∧ excess text last (i + 1) = 0 ∧
      (identifierEnding (before text i)).isSome = true)

end Nesting

variable {text : String} {last i : Nat}

/-! ## The largest surplus -/

theorem card_filter_Ico {P : Nat → Prop} [DecidablePred P] {q r : Nat} (lt : q < r) :
    ((Finset.Ico q r).filter P).card =
      (if P q then 1 else 0) + ((Finset.Ico (q + 1) r).filter P).card := by
  rw [Finset.card_filter, Finset.card_filter, Finset.sum_eq_sum_Ico_succ_bot lt]

theorem surplus_self (text : String) (last q : Nat) : surplus text last q q = 0 := by
  simp [surplus]

theorem surplus_step {r : Nat} (lt : i < r) :
    surplus text last i r =
      (if IsCode text last closeParen i then 1 else 0) -
        (if IsCode text last openParen i then 1 else 0) + surplus text last (i + 1) r := by
  rw [surplus, card_filter_Ico lt, card_filter_Ico lt, surplus]
  push_cast
  omega

theorem isGreatest_excess (text : String) {q : Nat} (le : q ≤ last + 1) :
    IsGreatest (surplus text last q '' Set.Icc q (last + 1)) (excess text last q) := by
  unfold excess
  have top : max q (last + 1) = last + 1 := max_eq_right le
  constructor
  · obtain ⟨r, member, attained⟩ := Finset.exists_mem_eq_sup'
      (Finset.nonempty_Icc.mpr (le_max_left q (last + 1))) (surplus text last q)
    rw [top, Finset.mem_Icc] at member
    exact ⟨r, member, attained.symm⟩
  · rintro _ ⟨r, member, rfl⟩
    apply Finset.le_sup'
    rw [top, Finset.mem_Icc]
    exact member

theorem excess_nonneg (text : String) {q : Nat} (le : q ≤ last + 1) : 0 ≤ excess text last q := by
  rw [← surplus_self text last q]
  exact (isGreatest_excess text le).2 ⟨q, ⟨le_rfl, le⟩, rfl⟩

theorem excess_end : excess text last (last + 1) = 0 := by
  simp [excess, surplus_self]

theorem excess_step (le : i ≤ last) :
    excess text last i =
      max 0 ((if IsCode text last closeParen i then 1 else 0) -
        (if IsCode text last openParen i then 1 else 0) + excess text last (i + 1)) := by
  have here := isGreatest_excess text (show i ≤ last + 1 by omega)
  have next := isGreatest_excess text (show i + 1 ≤ last + 1 by omega)
  apply le_antisymm
  · -- the best stretch from byte `i` is empty, or goes on behind it
    obtain ⟨r, ⟨from_i, upto⟩, attained⟩ := here.1
    rw [← attained]
    rcases Nat.eq_or_lt_of_le from_i with rfl | lt
    · rw [surplus_self]
      exact le_max_left _ _
    · rw [surplus_step lt]
      apply le_max_of_le_right
      have bound := next.2 ⟨r, ⟨lt, upto⟩, rfl⟩
      omega
  · apply max_le (excess_nonneg text (by omega))
    obtain ⟨r, ⟨lt, upto⟩, attained⟩ := next.1
    rw [← attained, ← surplus_step lt]
    exact here.2 ⟨r, ⟨by omega, upto⟩, rfl⟩

theorem toNat_excess_eq_zero (le : i ≤ last) :
    (excess text last (i + 1)).toNat = 0 ↔ excess text last (i + 1) = 0 := by
  have nonneg := excess_nonneg text (show i + 1 ≤ last + 1 by omega)
  omega

/-! ## One byte of the walk -/

section Byte
variable {b : UInt8} (here : (bytes text)[i]? = some b) (le : i ≤ last)
include here

theorem isCode_iff (x : UInt8) :
    IsCode text last x i ↔ insideAfter text last (last - i) = false ∧ b = x := by
  rw [IsCode, here, Option.some.injEq, and_comm]

theorem leavesLiteral_eq : leavesLiteral b (before text i) = decide (LeavesAt text i) := by
  have bound := (List.getElem?_eq_some_iff.mp here).1
  rw [Bool.eq_iff_iff, decide_eq_true_iff, LeavesAt, ← isUnescaped_before bound.le, here]
  simp [leavesLiteral]

include le

theorem nextInside_insideAfter :
    nextInside (insideAfter text last (last - i)) b (before text i) =
      insideAfter text last (last + 1 - i) := by
  have passed : last + 1 - i = (last - i) + 1 := by omega
  have back : last - (last - i) = i := by omega
  rw [passed, insideAfter]
  simp only [back, nextInside, leavesLiteral_eq here, here]
  rfl

theorem nextDepth_excess :
    nextDepth (insideAfter text last (last - i)) (excess text last (i + 1)).toNat b =
      (excess text last i).toNat := by
  have nonneg := excess_nonneg text (show i + 1 ≤ last + 1 by omega)
  rw [excess_step le]
  simp only [isCode_iff here]
  cases insideAfter text last (last - i) with
  | true =>
    simp only [nextDepth, if_true, Bool.true_eq_false, false_and, if_false]
    omega
  | false =>
    by_cases opens : b = openParen
    · subst opens
      have other : openParen ≠ closeParen := by decide
      simp only [nextDepth, other, BEq.rfl, true_and, Bool.false_eq_true, if_true, if_false]
      omega
    · by_cases closes : b = closeParen
      · subst closes
        simp [nextDepth, opens]
        omega
      · simp [nextDepth, opens, closes]
        omega

theorem opensList_excess :
    opensList (insideAfter text last (last - i)) (excess text last (i + 1)).toNat b = true ↔
      IsCode text last openParen i ∧ excess text last (i + 1) = 0 := by
  rw [isCode_iff here, ← toNat_excess_eq_zero le]
  simp [opensList]

theorem counts_excess :
    counts (insideAfter text last (last - i)) (excess text last (i + 1)).toNat b = true ↔
      IsCode text last comma i ∧ excess text last (i + 1) = 0 := by
  rw [isCode_iff here, ← toNat_excess_eq_zero le]
  simp [counts]

theorem ends_excess :
    ends (insideAfter text last (last - i)) (excess text last (i + 1)).toNat b (before text i) = true ↔
      EndsAt text last i := by
  simp only [EndsAt, ends, Bool.or_eq_true, Bool.and_eq_true, opensList_excess here le, and_assoc,
    isCode_iff here semicolon, Bool.not_eq_true', beq_iff_eq]

theorem card_listCommas :
    (listCommas text last (i + 1)).card +
        (counts (insideAfter text last (last - i)) (excess text last (i + 1)).toNat b).toNat =
      (listCommas text last i).card := by
  have counted := counts_excess here le
  rw [listCommas, listCommas, ← Finset.Ico_add_one_right_eq_Icc, ← Finset.Ico_add_one_right_eq_Icc,
    card_filter_Ico (Nat.lt_add_one_of_le le), Nat.add_comm]
  by_cases found : IsCode text last comma i ∧ excess text last (i + 1) = 0
  · rw [if_pos found, counted.mpr found, Bool.toNat_true]
  · rw [if_neg found, Bool.eq_false_iff.mpr (mt counted.mp found), Bool.toNat_false]

end Byte

/-! ## The whole walk -/

theorem locateBehind_passed (bound : last < (bytes text).length) (le : i ≤ last + 1)
    (passes : ∀ j, i ≤ j → j ≤ last → ¬ EndsAt text last j) :
    locateBehind (inStringAt text last) 0 0 (before text (last + 1)) =
      locateBehind (insideAfter text last (last + 1 - i)) (excess text last i).toNat
        (listCommas text last i).card (before text i) := by
  -- down from the cursor: all that the walk carries is known from the byte it has come to
  induction le using Nat.decreasingInduction with
  | self =>
    rw [excess_end, Nat.sub_self]
    simp [listCommas, insideAfter]
  | of_succ j lt ih =>
    have le : j ≤ last := Nat.le_of_lt_succ lt
    obtain ⟨b, here⟩ : ∃ b, (bytes text)[j]? = some b := ⟨_, List.getElem?_eq_getElem (by omega)⟩
    have goes : ¬ ends (insideAfter text last (last - j)) (excess text last (j + 1)).toNat b
        (before text j) = true := mt (ends_excess here le).mp (passes j le_rfl le)
    rw [ih fun k above => passes k (by omega), before_succ here, locateBehind_cons,
      Nat.add_sub_add_right, if_neg goes, nextInside_insideAfter here le, nextDepth_excess here le,
      card_listCommas here le]

theorem locate_of_endsAt {p : Nat} (bound : last < (bytes text).length) (le : p ≤ last)
    (stop : EndsAt text last p) (above : ∀ j, p < j → j ≤ last → ¬ EndsAt text last j) :
    locate text last =
      if IsCode text last openParen p ∧ excess text last (p + 1) = 0 then
        (identifierEnding (before text p)).map (⟨·, (listCommas text last (p + 1)).card⟩)
      else none := by
  obtain ⟨b, here⟩ : ∃ b, (bytes text)[p]? = some b := ⟨_, List.getElem?_eq_getElem (by omega)⟩
  rw [locate, locateBehind_passed bound (Nat.succ_le_succ le) above, before_succ here,
    locateBehind_cons, Nat.add_sub_add_right, if_pos ((ends_excess here le).mpr stop)]
  simp only [opensList_excess here le]

theorem locate_of_not_endsAt (bound : last < (bytes text).length)
    (nowhere : ∀ j ≤ last, ¬ EndsAt text last j) : locate text last = none := by
  rw [locate, locateBehind_passed bound (Nat.zero_le _) fun j _ => nowhere j]
  rfl

theorem locate_min (text : String) (offset : Nat) :
    locate text offset = locate text (min offset (text.utf8ByteSize - 1)) := by
  rw [locate, locate, inStringAt_eq_inLiteral, inStringAt_eq_inLiteral, before_succ_min]

theorem exists_greatest {P : Nat → Prop} (found : ∃ j ≤ last, P j) :
    ∃ p ≤ last, P p ∧ ∀ j, p < j → j ≤ last → ¬ P j := by
  classical
  obtain ⟨j, le, holds⟩ := found
  exact ⟨Nat.findGreatest P last, Nat.findGreatest_le last, Nat.findGreatest_spec le holds,
    fun j => Nat.findGreatest_is_greatest⟩

/-! ## Where the call opens -/

theorem opensCall_iff {p : Nat} {name : String} :
    OpensCall text last p name ↔
      p ≤ last ∧ IsCode text last openParen p ∧ excess text last (p + 1) = 0 ∧
        identifierEnding (before text p) = some name ∧
        ∀ x, p < x → x ≤ last → ¬ IsCode text last semicolon x := by
  cases p with
  | zero =>
    constructor
    · intro opens
      exact absurd opens.positive (by decide)
    · rintro ⟨-, -, -, ending, -⟩
      cases ending
  | succ p =>
    constructor
    · rintro ⟨-, le, paren, level, named, unbroken⟩
      exact ⟨le, paren, level, named, unbroken⟩
    · rintro ⟨le, paren, level, named, unbroken⟩
      exact ⟨Nat.le_add_left 1 p, le, paren, level, named, unbroken⟩

theorem OpensCall.endsAt {p : Nat} {name : String} (opens : OpensCall text last p name) :
    EndsAt text last p := by
  obtain ⟨-, paren, level, ending, -⟩ := opensCall_iff.mp opens
  exact .inr ⟨paren, level, by rw [ending, Option.isSome_some]⟩

theorem locate_eq_some_iff {name : String} {argument : Nat} (bound : last < (bytes text).length) :
    locate text last = some ⟨name, argument⟩ ↔
      ∃ p, OpensCall text last p name ∧
        (∀ p' name', OpensCall text last p' name' → p' ≤ p) ∧
        argument = (listCommas text last (p + 1)).card := by
  constructor
  · intro found
    by_cases ended : ∃ j ≤ last, EndsAt text last j
    · obtain ⟨p, le, stop, above⟩ := exists_greatest ended
      rw [locate_of_endsAt bound le stop above] at found
      split at found
      · rename_i opens
        obtain ⟨name, ending, shape⟩ := Option.map_eq_some_iff.mp found
        obtain ⟨rfl, rfl⟩ := Call.mk.inj shape
        have unbroken : ∀ x, p < x → x ≤ last → ¬ IsCode text last semicolon x :=
          fun x lt upto code => above x lt upto (.inl code)
        refine ⟨p, opensCall_iff.mpr ⟨le, opens.1, opens.2, ending, unbroken⟩, ?_, rfl⟩
        intro p' name' other
        by_contra later
        exact above p' (Nat.lt_of_not_le later) other.le other.endsAt
      · cases found
    · rw [locate_of_not_endsAt bound fun j le stop => ended ⟨j, le, stop⟩] at found
      cases found
  · rintro ⟨p, opens, greatest, rfl⟩
    obtain ⟨le, paren, level, ending, unbroken⟩ := opensCall_iff.mp opens
    have above : ∀ j, p < j → j ≤ last → ¬ EndsAt text last j := by
      rintro j lt upto (broken | ⟨paren', level', named⟩)
      · exact unbroken j lt upto broken
      · obtain ⟨name', ending'⟩ := Option.isSome_iff_exists.mp named
        have later := greatest j name' (opensCall_iff.mpr ⟨upto, paren', level', ending',
          fun x beyond => unbroken x (lt.trans beyond)⟩)
        omega
    rw [locate_of_endsAt bound le opens.endsAt above, if_pos ⟨paren, level⟩, ending]
    rfl

theorem locate_eq_none_iff (bound : last < (bytes text).length) :
    locate text last = none ↔ ∀ p name, ¬ OpensCall text last p name := by
  constructor
  · intro missing p name opens
    obtain ⟨q, -, ⟨name', first⟩, greatest⟩ :=
      exists_greatest (P := fun q => ∃ name, OpensCall text last q name) ⟨p, opens.le, name, opens⟩
    have found := (locate_eq_some_iff bound).mpr ⟨q, first, fun p' other opens' => ?_, rfl⟩
    · rw [missing] at found
      cases found
    · by_contra later
      exact greatest p' (Nat.lt_of_not_le later) opens'.le ⟨other, opens'⟩
  · intro nowhere
    rw [Option.eq_none_iff_forall_ne_some]
    rintro ⟨name, argument⟩ found
    obtain ⟨p, opens, -⟩ := (locate_eq_some_iff bound).mp found
    exact nowhere p name opens

/-- The call around a byte opens at the last parenthesis at which one can open, and its argument is
the number of the commas behind it that no further parenthesis encloses. -/
theorem locate_iff_opensCall (text : String) (offset : Nat) :
    let last := min offset (text.utf8ByteSize - 1)
    (∀ name argument, locate text offset = some ⟨name, argument⟩ ↔
      ∃ p, OpensCall text last p name ∧
        (∀ p' name', OpensCall text last p' name' → p' ≤ p) ∧
        argument = (listCommas text last (p + 1)).card) ∧
    (locate text offset = none ↔ ∀ p name, ¬ OpensCall text last p name) := by
  intro last
  rw [show locate text offset = locate text last from locate_min text offset]
  by_cases empty : text.utf8ByteSize = 0
  · -- there is no byte at all, so `last` is no byte of the text
    have nowhere : ∀ p name, ¬ OpensCall text last p name := by
      intro p name opens
      have positive := opens.positive
      have le := opens.le
      omega
    have missing : locate text last = none := by
      rw [String.utf8ByteSize_eq_zero_iff.mp empty]
      rfl
    simp [missing, nowhere]
  · have bound : last < (bytes text).length := by
      rw [length_bytes]
      omega
    exact ⟨fun name argument => locate_eq_some_iff bound, locate_eq_none_iff bound⟩

example : listCommas "f(a,(b,c),(d,e" 13 2 = {3, 9, 12} ∧
    locate "f(a,(b,c),(d,e" 13 = some ⟨"f", 3⟩ := by
  decide +kernel

end NoxAssist.Call
