import NoxAssist.Proofs.Text.Bytes

namespace NoxAssist.Text

theorem identifierEnding_of_run {behind run : List UInt8} (nonempty : run ≠ [])
    (found : (behind.dropWhile isAsciiBlank).takeWhile isIdentByte = run) :
    identifierEnding behind = some (ofAscii run.reverse) := by
  rw [identifierEnding, found]
  split
  · contradiction
  · rfl

/-- The bytes are `front`, the identifier `word` and the white space `gap`, and the identifier does
not begin earlier. -/
structure EndsInWord (upto front word gap : List UInt8) : Prop where
  split : upto = front ++ word ++ gap
  blank : ∀ b ∈ gap, isAsciiBlank b = true
  nonempty : word ≠ []
  ident : ∀ b ∈ word, isIdentByte b = true
  apart : front.getLast?.any isIdentByte = false

namespace EndsInWord

section
variable {upto front word gap : List UInt8} (ends : EndsInWord upto front word gap)
include ends

theorem dropWhile_isAsciiBlank :
    upto.reverse.dropWhile isAsciiBlank = word.reverse ++ front.reverse := by
  have all : ∀ b ∈ gap.reverse, isAsciiBlank b = true :=
    fun b member => ends.blank b (List.mem_reverse.mp member)
  have stop : (word.reverse ++ front.reverse).head?.any isAsciiBlank = false := by
    rw [List.head?_append, List.head?_reverse, List.getLast?_eq_some_getLast ends.nonempty]
    exact isAsciiBlank_of_isIdentByte (ends.ident _ (List.getLast_mem _))
  rw [ends.split, List.reverse_append, List.reverse_append]
  exact (span_run all stop).2

theorem span_isIdentByte :
    (upto.reverse.dropWhile isAsciiBlank).takeWhile isIdentByte = word.reverse ∧
      (upto.reverse.dropWhile isAsciiBlank).dropWhile isIdentByte = front.reverse := by
  rw [ends.dropWhile_isAsciiBlank]
  apply span_run
  · exact fun b member => ends.ident b (List.mem_reverse.mp member)
  · rw [List.head?_reverse]
    exact ends.apart

theorem identifierEnding : identifierEnding upto.reverse = some (ofAscii word) := by
  have nonempty : word.reverse ≠ [] := mt List.reverse_eq_nil_iff.mp ends.nonempty
  rw [identifierEnding_of_run nonempty ends.span_isIdentByte.1, List.reverse_reverse]

theorem ascii : ∀ b ∈ word, b.toNat < 128 :=
  fun b member => toNat_lt_of_isIdentByte (ends.ident b member)

theorem bytes_word : bytes (ofAscii word) = word :=
  bytes_ofAscii ends.ascii

theorem unique {front' word' gap' : List UInt8} (ends' : EndsInWord upto front' word' gap') :
    front = front' ∧ word = word' ∧ gap = gap' := by
  obtain ⟨run, rest⟩ := ends.span_isIdentByte
  obtain ⟨run', rest'⟩ := ends'.span_isIdentByte
  have sameFront : front = front' := List.reverse_inj.mp (rest.symm.trans rest')
  have sameWord : word = word' := List.reverse_inj.mp (run.symm.trans run')
  subst sameFront sameWord
  exact ⟨rfl, rfl, List.append_cancel_left (ends.split.symm.trans ends'.split)⟩

end

theorem of_run (upto : List UInt8)
    (nonempty : (upto.reverse.dropWhile isAsciiBlank).takeWhile isIdentByte ≠ []) :
    EndsInWord upto ((upto.reverse.dropWhile isAsciiBlank).dropWhile isIdentByte).reverse
      ((upto.reverse.dropWhile isAsciiBlank).takeWhile isIdentByte).reverse
      (upto.reverse.takeWhile isAsciiBlank).reverse where
  split := by
    rw [← List.reverse_append, List.takeWhile_append_dropWhile, ← List.reverse_append,
      List.takeWhile_append_dropWhile, List.reverse_reverse]
  blank b member := List.mem_takeWhile_imp (List.mem_reverse.mp member)
  nonempty := mt List.reverse_eq_nil_iff.mp nonempty
  ident b member := List.mem_takeWhile_imp (List.mem_reverse.mp member)
  apart := by
    have stop := List.head?_dropWhile_not isIdentByte (upto.reverse.dropWhile isAsciiBlank)
    rw [List.getLast?_reverse]
    cases here : ((upto.reverse.dropWhile isAsciiBlank).dropWhile isIdentByte).head? with
    | none => rfl
    | some b => rwa [here] at stop

end EndsInWord

theorem identifierEnding_eq_some_iff {upto : List UInt8} {name : String} :
    identifierEnding upto.reverse = some name ↔
      ∃ front gap, EndsInWord upto front (bytes name) gap := by
  constructor
  · intro found
    rw [identifierEnding] at found
    split at found
    · cases found
    · rename_i nonempty
      obtain rfl := Option.some.inj found
      have ends := EndsInWord.of_run upto nonempty
      exact ⟨_, _, ends.bytes_word.symm ▸ ends⟩
  · rintro ⟨front, gap, ends⟩
    rw [ends.identifierEnding, ofAscii_bytes ends.ascii]

theorem identifierEnding_eq_none_iff {upto : List UInt8} :
    identifierEnding upto.reverse = none ↔ ¬ ∃ front word gap, EndsInWord upto front word gap := by
  constructor
  · rintro missing ⟨front, word, gap, ends⟩
    rw [ends.identifierEnding] at missing
    cases missing
  · intro wordless
    rw [Option.eq_none_iff_forall_ne_some]
    intro name found
    obtain ⟨front, gap, ends⟩ := identifierEnding_eq_some_iff.mp found
    exact wordless ⟨front, _, gap, ends⟩

theorem identifierBefore_eq_identifierEnding (text : String) (offset : Nat) :
    identifierBefore text offset =
      identifierEnding ((bytes text).take (min offset (text.utf8ByteSize - 1) + 1)).reverse := by
  rw [identifierBefore, before_succ_min]
  rfl

theorem not_endsInWord_of_other {front gap : List UInt8} {b : UInt8}
    (blank : ∀ x ∈ gap, isAsciiBlank x = true) (noIdent : isIdentByte b = false)
    (noBlank : isAsciiBlank b = false) :
    ¬ ∃ front' word gap', EndsInWord (front ++ b :: gap) front' word gap' := by
  rintro ⟨front', word, gap', ends⟩
  have all : ∀ x ∈ gap.reverse, isAsciiBlank x = true :=
    fun x member => blank x (List.mem_reverse.mp member)
  have stop : (b :: front.reverse).head?.any isAsciiBlank = false := noBlank
  have rest := ends.dropWhile_isAsciiBlank
  rw [List.reverse_append, List.reverse_cons, List.append_assoc, List.singleton_append,
    (span_run all stop).2] at rest
  obtain ⟨x, more, shape⟩ := List.exists_cons_of_ne_nil (mt List.reverse_eq_nil_iff.mp ends.nonempty)
  rw [shape, List.cons_append, List.cons.injEq] at rest
  have ident := ends.ident x (List.mem_reverse.mp (shape ▸ List.mem_cons_self))
  rw [← rest.1, noIdent] at ident
  cases ident

/-- The identifier before an offset is the word that the bytes up to the offset end in. There is only
one, and without one there is no identifier; a word behind white space is found by itself, and any
other byte hides what is before it. -/
theorem identifierBefore_is_last_word (text : String) (offset : Nat) :
    let upto := (bytes text).take (min offset (text.utf8ByteSize - 1) + 1)
    (∀ name, identifierBefore text offset = some name ↔
        ∃ front gap, EndsInWord upto front (bytes name) gap) ∧
      (∀ front word gap front' word' gap', EndsInWord upto front word gap →
        EndsInWord upto front' word' gap' → front = front' ∧ word = word' ∧ gap = gap') ∧
      (identifierBefore text offset = none ↔ ¬ ∃ front word gap, EndsInWord upto front word gap) ∧
      (∀ front space word gap, upto = front ++ space ++ word ++ gap →
        space ≠ [] → (∀ b ∈ space, isAsciiBlank b = true) → word ≠ [] →
        (∀ b ∈ word, isIdentByte b = true) → (∀ b ∈ gap, isAsciiBlank b = true) →
        identifierBefore text offset = some (ofAscii word)) ∧
      ∀ front b gap, upto = front ++ b :: gap → isIdentByte b = false → isAsciiBlank b = false →
        (∀ x ∈ gap, isAsciiBlank x = true) → identifierBefore text offset = none := by
  intro upto
  rw [identifierBefore_eq_identifierEnding]
  refine ⟨fun name => identifierEnding_eq_some_iff, ?_, identifierEnding_eq_none_iff, ?_, ?_⟩
  · intro front word gap front' word' gap' ends ends'
    exact ends.unique ends'
  · intro front space word gap split spaced blank nonempty ident blank'
    have apart : (front ++ space).getLast?.any isIdentByte = false := by
      rw [List.getLast?_append, List.getLast?_eq_some_getLast spaced]
      by_contra named
      have visible := isAsciiBlank_of_isIdentByte (Bool.of_not_eq_false named)
      rw [blank _ (List.getLast_mem spaced)] at visible
      cases visible
    exact EndsInWord.identifierEnding ⟨split, blank', nonempty, ident, apart⟩
  · intro front b gap split noIdent noBlank blank
    rw [identifierEnding_eq_none_iff, show (bytes text).take _ = front ++ b :: gap from split]
    exact not_endsInWord_of_other blank noIdent noBlank

theorem identifierBefore_is_last_word_two_words :
    let text := "int foo\t\r\n(é"
    let upto := bytes "int foo\t\r\n"
    EndsInWord upto (bytes "int ") (bytes "foo") (bytes "\t\r\n") ∧
      identifierBefore text 9 = some "foo" ∧
      (∀ front word gap, EndsInWord upto front word gap → word = bytes "foo") ∧
      identifierBefore text 18446744073709551615 = none := by
  intro text upto
  have ends : EndsInWord upto (bytes "int ") (bytes "foo") (bytes "\t\r\n") :=
    ⟨by decide, List.all_eq_true.mp (by decide), by decide, List.all_eq_true.mp (by decide), by decide⟩
  have taken : (bytes text).take (min 9 (text.utf8ByteSize - 1) + 1) = upto := by decide
  obtain ⟨found, unique, -⟩ := identifierBefore_is_last_word text 9
  obtain ⟨-, -, -, -, hidden⟩ := identifierBefore_is_last_word text 18446744073709551615
  rw [taken] at found unique
  refine ⟨ends, (found "foo").mpr ⟨_, _, ends⟩, ?_, ?_⟩
  · intro front word gap ends'
    exact (unique _ _ _ _ _ _ ends' ends).2.1
  · exact hidden (bytes "int foo\t\r\n(" ++ [0xc3]) 0xa9 [] (by decide) (by decide) (by decide) nofun

end NoxAssist.Text
