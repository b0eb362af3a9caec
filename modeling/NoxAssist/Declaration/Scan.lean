import NoxAssist.Declaration.Basic
import NoxAssist.Declaration.Parameters

/-!
# Finding declarations in a script

A header is a lowercase type, a name and a parenthesised parameter list, with white space between.
The scan goes through a script once, from left to right. It reports a header only while it is
*armed*: it becomes armed at the start of a line, and a double quote or a reported header disarms it
until the next line starts.

A header that begins inside a run of lowercase letters also begins at the start of the run, so each
run is tried once only.
-/

namespace NoxAssist.Declaration

open Text

def header? (script : List Char) : Option (Declaration × List Char) :=
  let type := script.takeWhile Char.isLower
  let afterType := script.dropWhile Char.isLower
  let beforeName := afterType.dropWhile isBlank
  let name := beforeName.takeWhile isNameChar
  if type.isEmpty || !(afterType.head?.any isBlank) || name.isEmpty then
    none
  else
    match (beforeName.dropWhile isNameChar).dropWhile isBlank with
    | '(' :: inner =>
      let list := inner.takeWhile isListChar
      match inner.dropWhile isListChar with
      | ')' :: rest =>
        if isParameterList list then
          some (⟨String.ofList type, String.ofList name, splitParameters list⟩, rest)
        else
          none
      | _ => none
    | _ => none

private theorem length_dropWhile_le {α : Type} (p : α → Bool) (l : List α) :
    (l.dropWhile p).length ≤ l.length :=
  (List.dropWhile_sublist p).length_le

theorem length_lt_of_header? {script rest : List Char} {d : Declaration}
    (h : header? script = some (d, rest)) : rest.length < script.length := by
  dsimp only [header?] at h
  split at h
  · cases h
  · split at h
    · rename_i inner hinner
      split at h
      · rename_i tail htail
        split at h
        · simp only [Option.some.injEq, Prod.mk.injEq] at h
          obtain ⟨-, rfl⟩ := h
          have h₁ := congrArg List.length htail
          have h₂ := congrArg List.length hinner
          have h₃ := length_dropWhile_le isListChar inner
          have h₄ := length_dropWhile_le isBlank
            (((script.dropWhile Char.isLower).dropWhile isBlank).dropWhile isNameChar)
          have h₅ := length_dropWhile_le isNameChar
            ((script.dropWhile Char.isLower).dropWhile isBlank)
          have h₆ := length_dropWhile_le isBlank (script.dropWhile Char.isLower)
          have h₇ := length_dropWhile_le Char.isLower script
          simp only [List.length_cons] at h₁ h₂
          omega
        · cases h
      · cases h
    · cases h

def armedAfter (armed : Bool) (c : Char) : Bool :=
  if c == '"' then false else armed || c == '\n'

def scanFrom (armed : Bool) : List Char → List Declaration
  | [] => []
  | c :: script =>
    if armed && c.isLower then
      match _h : header? (c :: script) with
      | some (d, rest) => d :: scanFrom false rest
      | none => scanFrom armed (script.dropWhile Char.isLower)
    else
      scanFrom (armedAfter armed c) script
termination_by script => script.length
decreasing_by
  · exact length_lt_of_header? _h
  · exact Nat.lt_succ_of_le (length_dropWhile_le _ _)
  · exact Nat.lt_succ_self _

def scan (script : String) : List Declaration :=
  scanFrom true script.toList

def find? (script name : String) : Option Declaration :=
  (scan script).find? fun d => d.name == name

end NoxAssist.Declaration
