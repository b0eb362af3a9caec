import NoxAssist.Proofs.Declaration.Header

/-!
# What a quote hides

No header reaches across a double quote, and behind one the scan waits for the next line. So a quote
cuts a script in two: `scan_quote`.
-/

namespace NoxAssist.Declaration
open Text

theorem Run.not_mem {p : Char → Bool} {run : List Char} (holds : Run p run) {c : Char}
    (outside : p c = false) : c ∉ run := by
  intro member
  rw [holds c member] at outside
  cases outside

theorem IsCore.plain {captures : Captures} {core : List Char} (isCore : IsCore captures core) :
    '"' ∉ core := by
  obtain ⟨gap, trail, lead, lower, space, word, blank, leading, items, rfl⟩ := isCore
  have list : Run isListChar (lead ++ captures.list) :=
    Complete.isListChar ⟨lead, captures.list, leading, items, rfl⟩
  simp only [List.mem_append, List.mem_cons, not_or]
  refine ⟨lower.2.not_mem (by decide), space.2.not_mem (by decide), word.2.not_mem (by decide),
    blank.not_mem (by decide), by decide, ?_, by decide, by simp⟩
  simpa using list.not_mem (by decide : isListChar '"' = false)

theorem header?_append {script rest : List Char} {d : Declaration}
    (found : header? script = some (d, rest)) (more : List Char) :
    header? (script ++ more) = some (d, rest ++ more) := by
  obtain ⟨captures, core, isCore, rfl, rfl⟩ := header?_eq_some_iff.mp found
  rw [List.append_assoc]
  exact header?_of_isCore isCore (rest ++ more)

theorem header?_quote {script : List Char} (missing : header? script = none) (rest : List Char) :
    header? (script ++ '"' :: rest) = none := by
  rw [Option.eq_none_iff_forall_ne_some]
  rintro ⟨d, tail⟩ found
  obtain ⟨captures, core, isCore, split, -⟩ := header?_eq_some_iff.mp found
  -- a header that begins before the quote ends before it
  have inside : ∃ tail', script = core ++ tail' := by
    rcases List.append_eq_append_iff.mp split with ⟨across, rfl, behind⟩ | ⟨tail', whole, -⟩
    · cases across with
      | nil => exact ⟨[], by simp⟩
      | cons c across =>
        obtain ⟨rfl, -⟩ := List.cons.inj behind
        exact absurd (List.mem_append_right _ List.mem_cons_self) isCore.plain
    · exact ⟨tail', whole⟩
  obtain ⟨tail', rfl⟩ := inside
  rw [header?_of_isCore isCore] at missing
  cases missing

theorem dropWhile_isLower_quote (script rest : List Char) :
    (script ++ '"' :: rest).dropWhile Char.isLower = script.dropWhile Char.isLower ++ '"' :: rest := by
  induction script with
  | nil => rfl
  | cons c script ih =>
    by_cases lower : c.isLower = true
    · simp [lower, ih]
    · simp [lower]

theorem scanFrom_quote (armed : Bool) (script rest : List Char) :
    scanFrom armed (script ++ '"' :: rest) = scanFrom armed script ++ scanFrom false rest := by
  fun_induction scanFrom armed script with
  | case1 armed => exact scanFrom_other (Bool.and_false armed) rest
  | case2 armed c script now d tail found ih =>
    obtain ⟨rfl, -⟩ : armed = true ∧ c.isLower = true := by simpa using now
    rw [scanFrom_of_header? (header?_append found _), ih, List.cons_append]
  | case3 armed c script now missing ih =>
    obtain ⟨rfl, lower⟩ : armed = true ∧ c.isLower = true := by simpa using now
    rw [← ih, ← dropWhile_isLower_quote]
    exact scanFrom_of_missing lower (header?_quote missing rest)
  | case4 armed c script other ih =>
    rw [← ih]
    exact scanFrom_other (Bool.eq_false_iff.mpr other) _

theorem scanFrom_newline (armed : Bool) (rest : List Char) :
    scanFrom armed ('\n' :: rest) = scanFrom true rest := by
  cases armed with
  | false => exact scanFrom_other rfl rest
  | true => exact scanFrom_other rfl rest

theorem scanFrom_line {line : List Char} (single : '\n' ∉ line) (rest : List Char) :
    scanFrom false (line ++ '\n' :: rest) = scanFrom true rest := by
  induction line with
  | nil => exact scanFrom_newline false rest
  | cons c line ih =>
    rw [List.mem_cons, not_or] at single
    obtain ⟨here, later⟩ := single
    have waits : armedAfter false c = false := by simp [armedAfter, Ne.symm here]
    rw [List.cons_append, scanFrom_other rfl, waits, ih later]

theorem scan_quote (front hidden back : String) (line : '\n' ∉ hidden.toList) :
    scan (front ++ "\"" ++ hidden ++ "\n" ++ back) = scan front ++ scan back := by
  have chars : (front ++ "\"" ++ hidden ++ "\n" ++ back).toList =
      front.toList ++ '"' :: (hidden.toList ++ '\n' :: back.toList) := by
    simp
  rw [scan, chars, scanFrom_quote, scanFrom_line line]
  rfl

theorem scan_quote_between_headers :
    '\n' ∉ "; int g()\" void h()".toList ∧
      scan ("int f(int a) int" ++ "\"" ++ "; int g()\" void h()" ++ "\n" ++ "k()\nint m(int b)") =
        [⟨"int", "f", ["int a"]⟩, ⟨"int", "m", ["int b"]⟩] := by
  have line : '\n' ∉ "; int g()\" void h()".toList := by decide
  refine ⟨line, ?_⟩
  rw [scan_quote "int f(int a) int" "; int g()\" void h()" "k()\nint m(int b)" line]
  decide +kernel

end NoxAssist.Declaration
