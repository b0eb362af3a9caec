import NoxAssist.Declaration.Scan
import NoxAssist.Proofs.Declaration.Parameters
import NoxAssist.Proofs.Text.Bytes

namespace NoxAssist.Declaration
open Text

structure Captures where
  type : List Char
  name : List Char
  list : List Char
deriving DecidableEq, Repr

def Captures.declaration (captures : Captures) : Declaration :=
  ⟨String.ofList captures.type, String.ofList captures.name, splitParameters captures.list⟩

def IsCore (captures : Captures) (core : List Char) : Prop :=
  ∃ gap trail lead, Word Char.isLower captures.type ∧ Word isBlank gap ∧
    Word isNameChar captures.name ∧ Run isBlank trail ∧ Run isBlank lead ∧ IsItems captures.list ∧
    core = captures.type ++ (gap ++ (captures.name ++ (trail ++
      '(' :: (lead ++ captures.list ++ [')']))))

def Stops (p : Char → Bool) (rest : List Char) : Prop :=
  ∀ c ∈ rest.head?, p c = false

theorem Stops.head?_any {p : Char → Bool} {rest : List Char} (stops : Stops p rest) :
    rest.head?.any p = false := by
  cases here : rest.head? with
  | none => rfl
  | some c => exact stops c here

theorem takeWhile_run {p : Char → Bool} {run rest : List Char} (holds : Run p run)
    (stops : Stops p rest) : (run ++ rest).takeWhile p = run :=
  (span_run holds stops.head?_any).1

theorem dropWhile_run {p : Char → Bool} {run rest : List Char} (holds : Run p run)
    (stops : Stops p rest) : (run ++ rest).dropWhile p = rest :=
  (span_run holds stops.head?_any).2

theorem stops_word {p q : Char → Bool} (apart : ∀ c, q c = true → p c = false) {word : List Char}
    (isWord : Word q word) (rest : List Char) : Stops p (word ++ rest) := by
  obtain ⟨c, more, rfl⟩ := List.exists_cons_of_ne_nil isWord.1
  intro d here
  obtain rfl : c = d := Option.some.inj here
  exact apart c (isWord.2 c List.mem_cons_self)

theorem stops_run {p q : Char → Bool} (apart : ∀ c, q c = true → p c = false) {run rest : List Char}
    (isRun : Run q run) (stops : Stops p rest) : Stops p (run ++ rest) := by
  rcases isRun.eq_nil_or_word with rfl | word
  · exact stops
  · exact stops_word apart word rest

theorem isNameChar_of_isBlank {c : Char} (blank : isBlank c = true) : isNameChar c = false := by
  by_contra named
  rw [Bool.not_eq_false] at named
  rw [isBlank_of_isNameChar named] at blank
  cases blank

theorem isLower_of_isBlank {c : Char} (blank : isBlank c = true) : c.isLower = false := by
  by_contra lower
  rw [Bool.not_eq_false] at lower
  rw [isBlank_of_isNameChar (isNameChar_of_isLower lower)] at blank
  cases blank

theorem IsCore.parts {captures : Captures} {core : List Char} (isCore : IsCore captures core)
    (rest : List Char) :
    ∃ lead, Run isBlank lead ∧ IsItems captures.list ∧
      (core ++ rest).takeWhile Char.isLower = captures.type ∧
      ((core ++ rest).dropWhile Char.isLower).head?.any isBlank = true ∧
      (((core ++ rest).dropWhile Char.isLower).dropWhile isBlank).takeWhile isNameChar =
        captures.name ∧
      ((((core ++ rest).dropWhile Char.isLower).dropWhile isBlank).dropWhile isNameChar).dropWhile
        isBlank = '(' :: (lead ++ captures.list ++ ')' :: rest) := by
  obtain ⟨gap, trail, lead, lower, space, word, blank, leading, items, rfl⟩ := isCore
  refine ⟨lead, leading, items, ?_⟩
  let inner := '(' :: (lead ++ captures.list ++ ')' :: rest)
  have script : captures.type ++ (gap ++ (captures.name ++ (trail ++
      '(' :: (lead ++ captures.list ++ [')'])))) ++ rest =
      captures.type ++ (gap ++ (captures.name ++ (trail ++ inner))) := by
    simp [inner]
  rw [script]
  have atGap : Stops Char.isLower (gap ++ (captures.name ++ (trail ++ inner))) :=
    stops_word (fun c => isLower_of_isBlank) space _
  have atName : Stops isBlank (captures.name ++ (trail ++ inner)) :=
    stops_word (fun c => isBlank_of_isNameChar) word _
  have atTrail : Stops isNameChar (trail ++ inner) := by
    refine stops_run (fun c => isNameChar_of_isBlank) blank ?_
    rintro c ⟨⟩
    decide
  have atParen : Stops isBlank inner := by
    rintro c ⟨⟩
    decide
  have head : (gap ++ (captures.name ++ (trail ++ inner))).head?.any isBlank = true := by
    obtain ⟨c, more, rfl⟩ := List.exists_cons_of_ne_nil space.1
    exact space.2 c List.mem_cons_self
  rw [takeWhile_run lower.2 atGap, dropWhile_run lower.2 atGap, dropWhile_run space.2 atName,
    takeWhile_run word.2 atTrail, dropWhile_run word.2 atTrail, dropWhile_run blank atParen]
  exact ⟨rfl, head, rfl, rfl⟩

theorem list_parts {lead list : List Char} (blank : Run isBlank lead) (items : IsItems list)
    (rest : List Char) :
    (lead ++ list ++ ')' :: rest).takeWhile isListChar = lead ++ list ∧
      (lead ++ list ++ ')' :: rest).dropWhile isListChar = ')' :: rest := by
  have chars : Run isListChar (lead ++ list) := Complete.isListChar ⟨lead, list, blank, items, rfl⟩
  have stop : Stops isListChar (')' :: rest) := by
    rintro c ⟨⟩
    decide
  exact ⟨takeWhile_run chars stop, dropWhile_run chars stop⟩

theorem header?_of_isCore {captures : Captures} {core : List Char} (isCore : IsCore captures core)
    (rest : List Char) : header? (core ++ rest) = some (captures.declaration, rest) := by
  obtain ⟨lead, blank, items, type, space, name, inner⟩ := isCore.parts rest
  obtain ⟨-, -, -, lower, -, word, -⟩ := isCore
  obtain ⟨list, close⟩ := list_parts blank items rest
  have complete : isParameterList (lead ++ captures.list) = true :=
    isParameterList_iff.mpr ⟨lead, captures.list, blank, items, rfl⟩
  simp only [header?, type, space, name, inner, list, close, complete, splitParameters_append blank]
  simp [lower.1, word.1, Captures.declaration]

/-- A script begins with at most one header, and divides it in one way. -/
theorem IsCore.unique {captures captures' : Captures} {core core' rest rest' : List Char}
    (isCore : IsCore captures core) (isCore' : IsCore captures' core')
    (same : core ++ rest = core' ++ rest') : captures = captures' ∧ core = core' ∧ rest = rest' := by
  obtain ⟨lead, blank, items, type, -, name, inner⟩ := isCore.parts rest
  obtain ⟨lead', blank', items', type', -, name', inner'⟩ := isCore'.parts rest'
  rw [same] at type name inner
  obtain ⟨list, close⟩ := list_parts blank items rest
  obtain ⟨list', close'⟩ := list_parts blank' items' rest'
  have between : lead ++ captures.list ++ ')' :: rest = lead' ++ captures'.list ++ ')' :: rest' :=
    (List.cons.inj (inner.symm.trans inner')).2
  rw [between] at list close
  have rests : rest = rest' := (List.cons.inj (close.symm.trans close')).2
  -- the items are what is left of the list without the white space before it
  have lists : captures.list = captures'.list := by
    rw [← IsItems.dropWhile_isBlank blank items, ← list, list',
      IsItems.dropWhile_isBlank blank' items']
  refine ⟨?_, ?_, rests⟩
  · cases captures
    cases captures'
    simp only [Captures.mk.injEq]
    exact ⟨type.symm.trans type', name.symm.trans name', lists⟩
  · rw [rests] at same
    exact List.append_cancel_right same

theorem isCore_of_header? {script rest : List Char} {d : Declaration}
    (found : header? script = some (d, rest)) :
    ∃ captures core, IsCore captures core ∧ script = core ++ rest ∧ d = captures.declaration := by
  dsimp only [header?] at found
  split at found
  · cases found
  rename_i checks
  simp only [Bool.or_eq_true, Bool.not_eq_true', not_or, List.isEmpty_iff, Bool.not_eq_false] at checks
  obtain ⟨⟨type, space⟩, name⟩ := checks
  split at found
  · rename_i inner opens
    split at found
    · rename_i tail closes
      split at found
      · rename_i accepted
        simp only [Option.some.injEq, Prod.mk.injEq] at found
        obtain ⟨rfl, rfl⟩ := found
        obtain ⟨lead, list, blank, items, split⟩ := isParameterList_iff.mp accepted
        have run (p : Char → Bool) (chars : List Char) : Run p (chars.takeWhile p) :=
          fun c member => List.mem_takeWhile_imp member
        refine ⟨⟨script.takeWhile Char.isLower,
          ((script.dropWhile Char.isLower).dropWhile isBlank).takeWhile isNameChar, list⟩, _,
          ⟨(script.dropWhile Char.isLower).takeWhile isBlank,
            (((script.dropWhile Char.isLower).dropWhile isBlank).dropWhile isNameChar).takeWhile
              isBlank, lead, ⟨type, run _ _⟩, ⟨?_, run _ _⟩, ⟨name, run _ _⟩, run _ _, blank, items, rfl⟩,
          ?_, ?_⟩
        · -- the gap is not empty because the type is followed by white space
          cases after : script.dropWhile Char.isLower with
          | nil => simp [after] at space
          | cons c more =>
            rw [after] at space
            have here : isBlank c = true := space
            simp [here]
        · -- the parts are the script again
          have whole : lead ++ list ++ [')'] ++ tail = inner := by
            rw [← split, List.append_assoc, List.singleton_append, ← closes,
              List.takeWhile_append_dropWhile]
          simp only [List.append_assoc, List.cons_append] at whole ⊢
          rw [whole, ← opens, List.takeWhile_append_dropWhile, List.takeWhile_append_dropWhile,
            List.takeWhile_append_dropWhile, List.takeWhile_append_dropWhile]
        · rw [split, splitParameters_append blank]
          rfl
      · cases found
    · cases found
  · cases found

theorem header?_eq_some_iff {script rest : List Char} {d : Declaration} :
    header? script = some (d, rest) ↔
      ∃ captures core, IsCore captures core ∧ script = core ++ rest ∧ d = captures.declaration := by
  constructor
  · exact isCore_of_header?
  · rintro ⟨captures, core, isCore, rfl, rfl⟩
    exact header?_of_isCore isCore rest

theorem scanFrom_of_header? {script rest : List Char} {d : Declaration}
    (found : header? script = some (d, rest)) : scanFrom true script = d :: scanFrom false rest := by
  cases script with
  | nil => cases found
  | cons c script =>
    have lower : c.isLower = true := by
      by_contra upper
      simp [header?, upper] at found
    rw [scanFrom, if_pos (by simp [lower])]
    split
    · rename_i d' rest' found'
      obtain ⟨rfl, rfl⟩ := Prod.mk.inj (Option.some.inj (found.symm.trans found'))
      rfl
    · rename_i missing
      cases found.symm.trans missing

theorem scanFrom_of_missing {c : Char} {script : List Char} (lower : c.isLower = true)
    (missing : header? (c :: script) = none) :
    scanFrom true (c :: script) = scanFrom true (script.dropWhile Char.isLower) := by
  rw [scanFrom, if_pos (by simp [lower])]
  split
  · rename_i found
    cases missing.symm.trans found
  · rfl

theorem scanFrom_other {armed : Bool} {c : Char} (other : (armed && c.isLower) = false)
    (script : List Char) : scanFrom armed (c :: script) = scanFrom (armedAfter armed c) script := by
  rw [scanFrom, if_neg (by simp [other])]

end NoxAssist.Declaration
