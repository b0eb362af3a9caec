import Mathlib.Data.Bool.AllAny
import NoxAssist.Proofs.Json.Grammar

namespace NoxAssist.Json

theorem isSpace_iff (c : Char) : isSpace c = true ↔ c ∈ [' ', '\n', '\t', '\r'] := by
  simp [isSpace, or_assoc]

theorem skipSpace_gap {gap : List Char} (isGap : IsGap gap) (text : List Char) :
    skipSpace (gap ++ text) = skipSpace text :=
  List.dropWhile_append_of_pos fun c member => (isSpace_iff c).mpr (isGap c member)

theorem skipSpace_cons {c : Char} (solid : isSpace c = false) (text : List Char) :
    skipSpace (c :: text) = c :: text :=
  List.dropWhile_cons_of_neg (by simp [solid])

theorem skipSpace_gap_cons {gap : List Char} (isGap : IsGap gap) {c : Char}
    (solid : isSpace c = false) (text : List Char) : skipSpace (gap ++ c :: text) = c :: text := by
  rw [skipSpace_gap isGap, skipSpace_cons solid]

theorem hexDigit?_of_isHex {value : Nat} {digit : Char} (hex : IsHex value digit) :
    Text.hexDigit? digit = some value := by
  have table : ∀ n < 16, Text.hexDigit? (Nat.digitChar n) = some n ∧
      Text.hexDigit? (Nat.digitChar n).toUpper = some n := by decide
  obtain ⟨small, rfl | rfl⟩ := hex
  · exact (table value small).1
  · exact (table value small).2

theorem WritesUnit.unit? {unit : Nat} {digits : List Char} (writes : WritesUnit unit digits) :
    ∃ w x y z, digits = [w, x, y, z] ∧ Json.unit? w x y z = some unit := by
  cases writes with
  | digits first second third fourth =>
    refine ⟨_, _, _, _, rfl, ?_⟩
    simp [Json.unit?, hexDigit?_of_isHex first, hexDigit?_of_isHex second,
      hexDigit?_of_isHex third, hexDigit?_of_isHex fourth]

theorem escaped?_of_mem {letter c : Char} (known : (letter, c) ∈ shorthands) :
    escaped? letter = some c ∧ letter ≠ 'u' := by
  have table : ∀ entry ∈ shorthands, escaped? entry.1 = some entry.2 ∧ entry.1 ≠ 'u' :=
    List.all_iff_forall_prop.mp (by decide)
  exact table (letter, c) known

theorem toNat_not_surrogate (c : Char) : ¬ (0xd800 ≤ c.toNat ∧ c.toNat ≤ 0xdfff) := by
  have valid : c.toNat < 0xd800 ∨ 0xdfff < c.toNat ∧ c.toNat < 0x110000 := c.valid
  omega

theorem readString_of_writesChar {c : Char} {written : List Char} (writes : WritesChar c written)
    (read text : List Char) : readString read (written ++ text) = readString (c :: read) text := by
  rw [readString.eq_def]
  cases writes with
  | plain isPlain =>
    obtain ⟨noQuote, noBackslash, printable⟩ := isPlain
    simp [noQuote, noBackslash, Nat.not_lt.mpr printable]
  | @short letter _ known =>
    obtain ⟨escaped, noUnit⟩ := escaped?_of_mem known
    simp [escaped, noUnit]
  | unit writes =>
    obtain ⟨w, x, y, z, rfl, value⟩ := writes.unit?
    have outside := toNat_not_surrogate c
    have notLow : isLowUnit c.toNat = false := by
      simp [isLowUnit]
      omega
    have notHigh : isHighUnit c.toNat = false := by
      simp [isHighUnit]
      omega
    simp [value, notLow, notHigh, Char.ofNat_toNat]
  | @pair _ high low _ _ isHigh isLow value writesHigh writesLow =>
    obtain ⟨w, x, y, z, rfl, first⟩ := writesHigh.unit?
    obtain ⟨w', x', y', z', rfl, second⟩ := writesLow.unit?
    have notLow : isLowUnit high = false := by
      simp [isLowUnit]
      omega
    have high' : isHighUnit high = true := by simp [isHighUnit, isHigh]
    have low' : isLowUnit low = true := by simp [isLowUnit, isLow]
    have char : pairChar high low = c := by
      rw [pairChar, ← value, Char.ofNat_toNat]
    simp [first, second, notLow, high', low', char]

theorem readString_of_writesBody {chars body : List Char} (writes : WritesBody chars body)
    (read rest : List Char) :
    readString read (body ++ '"' :: rest) = .ok (String.ofList (read.reverse ++ chars), rest) := by
  induction writes generalizing read with
  | nil =>
    rw [List.nil_append, readString.eq_def]
    simp
  | cons first more ih => simp [readString_of_writesChar first, ih]

theorem skipString_of_isBody {body : List Char} (isBody : IsBody body) (rest : List Char) :
    skipString (body ++ '"' :: rest) = .ok rest := by
  induction isBody with
  | nil =>
    rw [List.nil_append, skipString.eq_def]
    simp
  | plain isPlain more ih =>
    obtain ⟨noQuote, noBackslash, printable⟩ := isPlain
    rw [List.cons_append, skipString.eq_def]
    simp [noQuote, noBackslash, Nat.not_lt.mpr printable, ih]
  | short known more ih =>
    obtain ⟨escaped, noUnit⟩ := escaped?_of_mem known
    rw [List.cons_append, skipString.eq_def]
    simp [escaped, noUnit, ih]
  | unit writes more ih =>
    obtain ⟨w, x, y, z, rfl, value⟩ := writes.unit?
    rw [List.cons_append, List.cons_append, skipString.eq_def]
    simp [value, ih]

def Ends (rest : List Char) : Prop :=
  ∀ c ∈ rest.head?, c ∈ [' ', '\n', '\t', '\r'] ∨ c ∈ [',', ']', '}']

theorem ends_cons {c : Char} (closes : c ∈ [',', ']', '}']) (rest : List Char) :
    Ends (c :: rest) := by
  intro d here
  obtain rfl : c = d := Option.some.inj here
  exact .inr closes

theorem Ends.gap {gap rest : List Char} (isGap : IsGap gap) (ends : Ends rest) :
    Ends (gap ++ rest) := by
  cases gap with
  | nil => exact ends
  | cons c gap =>
    intro d here
    obtain rfl : c = d := Option.some.inj here
    exact .inl (isGap c List.mem_cons_self)

theorem Ends.of_cons {c : Char} {rest : List Char} (ends : Ends (c :: rest)) :
    c.isDigit = false ∧ c ≠ '.' ∧ c ≠ 'e' ∧ c ≠ 'E' := by
  have closes := ends c rfl
  simp only [List.mem_cons, List.not_mem_nil, or_false] at closes
  rcases closes with (rfl | rfl | rfl | rfl) | rfl | rfl | rfl <;> decide

theorem Ends.head?_any {rest : List Char} (ends : Ends rest) :
    rest.head?.any Char.isDigit = false := by
  cases rest with
  | nil => rfl
  | cons c rest => exact ends.of_cons.1

theorem skipDigits_append {digits : List Char} (isDigits : IsDigits digits) {rest : List Char}
    (stops : rest.head?.any Char.isDigit = false) : skipDigits (digits ++ rest) = .ok rest := by
  obtain ⟨nonempty, all⟩ := isDigits
  have left : rest.dropWhile Char.isDigit = rest := by
    cases rest with
    | nil => rfl
    | cons c rest => exact List.dropWhile_cons_of_neg (by simpa using stops)
  have passed : (digits ++ rest).dropWhile Char.isDigit = rest := by
    rw [List.dropWhile_append_of_pos all, left]
  cases digits with
  | nil => exact absurd rfl nonempty
  | cons c digits =>
    have digit := all c List.mem_cons_self
    rw [skipDigits, if_pos (by simp [digit]), passed]

theorem IsDigits.head {digits : List Char} (isDigits : IsDigits digits) :
    ∃ c more, digits = c :: more ∧ c.isDigit = true := by
  obtain ⟨nonempty, all⟩ := isDigits
  cases digits with
  | nil => exact absurd rfl nonempty
  | cons c more => exact ⟨c, more, rfl, all c List.mem_cons_self⟩

theorem skipExponent_append {exponent : List Char} (isExponent : IsExponent exponent)
    {rest : List Char} (ends : Ends rest) : skipExponent (exponent ++ rest) = .ok rest := by
  rcases isExponent with rfl | ⟨mark, sign, digits, isMark, isSign, isDigits, rfl⟩
  · cases rest with
    | nil => rfl
    | cons c rest =>
      obtain ⟨-, -, lower, upper⟩ := ends.of_cons
      simp [skipExponent, lower, upper]
  · have passed := skipDigits_append isDigits ends.head?_any
    have marked : mark = 'e' ∨ mark = 'E' := by simpa using isMark
    obtain ⟨c, more, rfl, digit⟩ := isDigits.head
    have noPlus : c ≠ '+' := by
      rintro rfl
      cases digit
    have noMinus : c ≠ '-' := by
      rintro rfl
      cases digit
    simp only [List.mem_cons, List.not_mem_nil, or_false] at isSign
    rcases isSign with rfl | rfl | rfl
    · simpa [skipExponent, marked, noPlus, noMinus] using passed
    · simpa [skipExponent, marked] using passed
    · simpa [skipExponent, marked] using passed

theorem IsExponent.head {exponent : List Char} (isExponent : IsExponent exponent) {rest : List Char}
    (ends : Ends rest) :
    ∀ c ∈ (exponent ++ rest).head?, c.isDigit = false ∧ c ≠ '.' := by
  intro c here
  rcases isExponent with rfl | ⟨mark, sign, digits, isMark, -, -, rfl⟩
  · cases rest with
    | nil => cases here
    | cons d rest =>
      obtain rfl : d = c := Option.some.inj here
      exact ⟨ends.of_cons.1, ends.of_cons.2.1⟩
  · obtain rfl : mark = c := Option.some.inj here
    have marked : mark = 'e' ∨ mark = 'E' := by simpa using isMark
    rcases marked with rfl | rfl <;> decide

theorem skipNumber_whole {whole : List Char} (isWhole : IsWhole whole) {tail : List Char}
    (stops : tail.head?.any Char.isDigit = false) :
    skipNumber (whole ++ tail) = skipNumber ('0' :: tail) := by
  rcases isWhole with rfl | ⟨isDigits, noZero⟩
  · rfl
  · have first := skipDigits_append isDigits stops
    obtain ⟨c, more, rfl, -⟩ := isDigits.head
    have other : c ≠ '0' := by
      rintro rfl
      exact noZero rfl
    rw [List.cons_append] at first ⊢
    simp [skipNumber, other, first, stops]

theorem skipNumber_append {number : List Char} (isUnsigned : IsUnsigned number) {rest : List Char}
    (ends : Ends rest) : skipNumber (number ++ rest) = .ok rest := by
  obtain ⟨whole, fraction, exponent, isWhole, isFraction, isExponent, rfl⟩ := isUnsigned
  have last := skipExponent_append isExponent ends
  have next := isExponent.head ends
  rw [List.append_assoc, List.append_assoc]
  generalize exponent ++ rest = tail at last next ⊢
  have stops : tail.head?.any Char.isDigit = false := by
    cases tail with
    | nil => rfl
    | cons c tail => exact (next c rfl).1
  rcases isFraction with rfl | ⟨digits, isDigits, rfl⟩
  · rw [List.nil_append, skipNumber_whole isWhole stops]
    cases tail with
    | nil => exact last
    | cons c tail => simpa [skipNumber, bind, Except.bind, (next c rfl).1, (next c rfl).2] using last
  · have passed := skipDigits_append isDigits stops
    rw [skipNumber_whole isWhole rfl, List.cons_append]
    simpa [skipNumber, bind, Except.bind, passed] using last

end NoxAssist.Json
