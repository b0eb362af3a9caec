import Mathlib.Data.List.Induction
import NoxAssist.Proofs.Text.Bytes
import NoxAssist.Text.Literal

namespace NoxAssist.Text

/-- Whether the first of some bytes, which are given nearest first, lies in a string literal. -/
def inLiteral (behind : List UInt8) : Bool :=
  quotesBehind behind % 2 == 1

theorem inStringAt_eq_inLiteral (text : String) (offset : Nat) :
    inStringAt text offset = inLiteral (before text (offset + 1)) := rfl

theorem isUnescaped_before {text : String} {i : Nat} (bound : i ≤ (bytes text).length) :
    isUnescaped (before text i) = false ↔ 0 < i ∧ (bytes text)[i - 1]? = some backslash := by
  cases i with
  | zero => simp [before, isUnescaped]
  | succ i =>
    have here := List.getElem?_eq_getElem (show i < (bytes text).length from bound)
    rw [before_succ here]
    simp [isUnescaped, here]

@[simp] theorem inLiteral_nil : inLiteral [] = false := rfl

@[simp] theorem inLiteral_newline (behind : List UInt8) : inLiteral (newline :: behind) = false := by
  simp [inLiteral, quotesBehind]

theorem inLiteral_unescaped {behind : List UInt8} (unescaped : isUnescaped behind = true) :
    inLiteral (quote :: behind) = !inLiteral behind := by
  have other : (quote == newline) = false := by decide
  simp only [inLiteral, quotesBehind, other, unescaped, Bool.false_eq_true, if_false, BEq.rfl,
    Bool.and_self, if_true]
  rcases Nat.mod_two_eq_zero_or_one (quotesBehind behind) with even | odd
  · rw [Nat.add_mod, even]
    rfl
  · rw [Nat.add_mod, odd]
    rfl

theorem inLiteral_escaped {behind : List UInt8} (escaped : isUnescaped behind = false) :
    inLiteral (quote :: behind) = inLiteral behind := by
  have other : (quote == newline) = false := by decide
  simp [inLiteral, quotesBehind, other, escaped]

theorem inLiteral_other {b : UInt8} (behind : List UInt8) (noNewline : b ≠ newline)
    (noQuote : b ≠ quote) : inLiteral (b :: behind) = inLiteral behind := by
  simp [inLiteral, quotesBehind, noNewline, noQuote]

theorem inLiteral_plain {run behind : List UInt8} (plain : ∀ b ∈ run, b ≠ newline ∧ b ≠ quote) :
    inLiteral (run ++ behind) = inLiteral behind := by
  induction run with
  | nil => rfl
  | cons b run ih =>
    obtain ⟨noNewline, noQuote⟩ := plain b List.mem_cons_self
    rw [List.cons_append, inLiteral_other _ noNewline noQuote]
    exact ih fun x member => plain x (List.mem_cons_of_mem _ member)

theorem inLiteral_run {run behind : List UInt8} (noQuote : ∀ b ∈ run, b ≠ quote)
    (outside : inLiteral behind = false) : inLiteral (run ++ behind) = false := by
  induction run with
  | nil => exact outside
  | cons b run ih =>
    have rest := ih fun x member => noQuote x (List.mem_cons_of_mem _ member)
    by_cases line : b = newline
    · rw [line, List.cons_append, inLiteral_newline]
    · rw [List.cons_append, inLiteral_other _ line (noQuote b List.mem_cons_self), rest]

theorem forall_split_iff {α : Type} {run : List α} {a b : α} :
    (∀ front back, run = front ++ a :: back → front.getLast? = some b) ↔
      ∀ i < run.length, run[i]? = some a → (run.take i).getLast? = some b := by
  constructor
  · intro preceded i bound here
    apply preceded (run.take i) (run.drop (i + 1))
    rw [List.getElem?_eq_getElem bound, Option.some.injEq] at here
    rw [← here, ← List.drop_eq_getElem_cons bound, List.take_append_drop]
  · rintro preceded front back rfl
    have here := preceded front.length (by simp) (by simp)
    rwa [List.take_left] at here

def Escaped (body : List UInt8) : Prop :=
  ∀ front back, body = front ++ quote :: back → front.getLast? = some backslash

instance : DecidablePred Escaped :=
  fun _ => decidable_of_iff _ forall_split_iff.symm

theorem Escaped.of_prefix {front body : List UInt8} (initial : front <+: body)
    (escaped : Escaped body) : Escaped front := by
  obtain ⟨rest, rfl⟩ := initial
  rintro before behind rfl
  exact escaped before (behind ++ rest) (by rw [List.append_assoc, List.cons_append])

theorem isUnescaped_reverse {run behind : List UInt8} (unescaped : isUnescaped behind = true)
    (last : run.getLast? ≠ some backslash) : isUnescaped (run.reverse ++ behind) = true := by
  rw [isUnescaped, List.head?_append, List.head?_reverse]
  cases here : run.getLast? with
  | none => exact unescaped
  | some b =>
    rw [here] at last
    simpa using last

theorem isUnescaped_reverse_backslash {run : List UInt8} (last : run.getLast? = some backslash)
    (behind : List UInt8) : isUnescaped (run.reverse ++ behind) = false := by
  rw [isUnescaped, List.head?_append, List.head?_reverse, last]
  rfl

/-- What holds at the opening quote of a literal holds along its body, if neither a plain byte nor an
escaped quote changes it. -/
theorem body_induction {P : List UInt8 → Prop} {behind : List UInt8} (start : P (quote :: behind))
    (other : ∀ b rest, b ≠ newline → b ≠ quote → P rest → P (b :: rest))
    (escape : ∀ rest, isUnescaped rest = false → P rest → P (quote :: rest))
    {body : List UInt8} (single : newline ∉ body) (escaped : Escaped body) :
    P (body.reverse ++ quote :: behind) := by
  induction body using List.reverseRecOn with
  | nil => exact start
  | append_singleton front b ih =>
    rw [List.mem_append, not_or] at single
    have rest := ih single.1 (escaped.of_prefix (List.prefix_append front [b]))
    rw [List.reverse_append, List.reverse_singleton, List.singleton_append, List.cons_append]
    by_cases atQuote : b = quote
    · subst atQuote
      exact escape _ (isUnescaped_reverse_backslash (escaped front [] rfl) _) rest
    · exact other b _ (fun line => single.2 (line ▸ List.mem_singleton_self b)) atQuote rest

theorem inLiteral_body {body behind : List UInt8} (single : newline ∉ body) (escaped : Escaped body)
    (unescaped : isUnescaped behind = true) :
    inLiteral (body.reverse ++ quote :: behind) = !inLiteral behind := by
  apply body_induction (P := fun bytes => inLiteral bytes = !inLiteral behind)
    (inLiteral_unescaped unescaped) _ _ single escaped
  · intro b rest noNewline noQuote same
    rw [inLiteral_other rest noNewline noQuote, same]
  · intro rest backslashed same
    rw [inLiteral_escaped backslashed, same]

end NoxAssist.Text
