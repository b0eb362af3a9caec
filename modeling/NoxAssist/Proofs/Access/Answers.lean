import NoxAssist.Analysis
import NoxAssist.Proofs.Access.Scanners
import NoxAssist.Proofs.Builtin.Naming
import NoxAssist.Proofs.Call.Walk

namespace NoxAssist.Access
open Text

structure Walk where
  inside : Bool
  depth : Nat
  commas : Nat

def nameBefore (text : String) : Nat → Access (Option String)
  | 0 => return none
  | place + 1 => identifierBefore text place

def callStep (text : String) (i : Nat) (w : Walk) : Access (Step Walk (Option Call)) := do
  let b ← byteAt text i
  if w.inside then
    let plain ← isPlainQuote text i b
    return .next { w with inside := !(b == newline || plain) }
  else if b == semicolon then
    return .done none
  else if b == quote then
    return .next { w with inside := true }
  else if b == openParen then
    if w.depth = 0 then
      match ← nameBefore text i with
      | some name => return .done (some ⟨name, w.commas⟩)
      | none => return .next w
    else
      return .next { w with depth := (← difference w.depth 1).1 }
  else if b == closeParen then
    return .next { w with depth := (← increment text w.depth).1 }
  else if b == comma && w.depth == 0 then
    return .next { w with commas := (← increment text w.commas).1 }
  else
    return .next w

def locate (text : String) (offset : Nat) : Access (Option Call) :=
  if text.utf8ByteSize = 0 then
    return none
  else do
    let i ← lastPlace text offset
    let inside ← inStringAt text i
    descend (callStep text) (fun _ => none) i ⟨inside, 0, 0⟩

def locateAtCursor (text : String) : Nat → Access (Option Call)
  | 0 => return none
  | offset + 1 => locate text offset

theorem nameBefore_eq (text : String) (i : Nat) :
    nameBefore text i = .ok (identifierEnding (before text i)) := by
  cases i with
  | zero => rfl
  | succ i => exact identifierBefore_eq text i

def Walk.Fits (text : String) (left : Nat) (w : Walk) : Prop :=
  w.depth + left ≤ text.utf8ByteSize ∧ w.commas + left ≤ text.utf8ByteSize

def Walk.next (w : Walk) (b : UInt8) (behind : List UInt8) : Walk :=
  ⟨Call.nextInside w.inside b behind, Call.nextDepth w.inside w.depth b,
    w.commas + (Call.counts w.inside w.depth b).toNat⟩

theorem Walk.Fits.next {text : String} {left : Nat} {w : Walk} (fits : w.Fits text (left + 1))
    (b : UInt8) (behind : List UInt8) : (w.next b behind).Fits text left := by
  obtain ⟨deep, many⟩ := fits
  constructor
  · simp only [Walk.next, Call.nextDepth]
    split_ifs <;> omega
  · have single := Bool.toNat_le (Call.counts w.inside w.depth b)
    simp only [Walk.next]
    omega

theorem callStep_code {text : String} {i depth commas : Nat} {b : UInt8}
    (here : (bytes text)[i]? = some b) (deep : depth < text.utf8ByteSize)
    (many : commas < text.utf8ByteSize) :
    callStep text i ⟨false, depth, commas⟩ = .ok (
      if Call.ends false depth b (before text i) then
        .done (if Call.opensList false depth b then
          (identifierEnding (before text i)).map (⟨·, commas⟩) else none)
      else
        .next (Walk.next ⟨false, depth, commas⟩ b (before text i))) := by
  have deeper := increment_eq deep
  have more := increment_eq many
  rw [callStep, byteAt_eq here, ok_bind]
  by_cases atSemicolon : b = semicolon
  · subst atSemicolon
    simp [Call.ends, Call.opensList, semicolon, openParen]
  by_cases atQuote : b = quote
  · subst atQuote
    simp [Call.ends, Call.opensList, Walk.next, Call.nextInside, Call.nextDepth, Call.counts, quote,
      semicolon, openParen, closeParen, comma]
  by_cases atOpen : b = openParen
  · subst atOpen
    cases depth with
    | zero =>
      cases name : identifierEnding (before text i) <;>
        simp [nameBefore_eq, name, Call.ends, Call.opensList, Walk.next, Call.nextInside,
          Call.nextDepth, Call.counts, openParen, semicolon, quote, comma]
    | succ depth =>
      simp [difference_succ, Call.ends, Call.opensList, Walk.next, Call.nextInside, Call.nextDepth,
        Call.counts, openParen, semicolon, quote, comma]
  by_cases atClose : b = closeParen
  · subst atClose
    simp [deeper, Call.ends, Call.opensList, Walk.next, Call.nextInside, Call.nextDepth,
      Call.counts, closeParen, openParen, semicolon, quote, comma]
  have noQuote : (b == quote) = false := beq_eq_false_iff_ne.mpr atQuote
  by_cases atComma : b = comma
  · cases depth <;>
      simp [more, Call.ends, Call.opensList, Walk.next, Call.nextInside, Call.nextDepth,
        Call.counts, atComma, comma, semicolon, quote, openParen, closeParen]
  · simp [Call.ends, Call.opensList, Walk.next, Call.nextInside, Call.nextDepth, Call.counts,
      atSemicolon, noQuote, atOpen, atClose, beq_eq_false_iff_ne.mpr atComma]

theorem callStep_eq {text : String} {i : Nat} {b : UInt8} {w : Walk}
    (here : (bytes text)[i]? = some b) (fits : w.Fits text (i + 1)) :
    callStep text i w = .ok (
      if Call.ends w.inside w.depth b (before text i) then
        .done (if Call.opensList w.inside w.depth b then
          (identifierEnding (before text i)).map (⟨·, w.commas⟩) else none)
      else
        .next (w.next b (before text i))) := by
  have bound := (List.getElem?_eq_some_iff.mp here).1
  obtain ⟨inside, depth, commas⟩ := w
  obtain ⟨deep, many⟩ := fits
  dsimp only at deep many
  cases inside with
  | true =>
    simp [callStep, byteAt_eq here, isPlainQuote_eq bound.le, Call.ends, Call.opensList, Walk.next,
      Call.nextInside, Call.leavesLiteral, Call.nextDepth, Call.counts]
  | false => exact callStep_code here (by omega) (by omega)

theorem locate_eq (text : String) (offset : Nat) :
    locate text offset = .ok (Call.locate text offset) := by
  rw [locate, Call.locate]
  split
  · rename_i empty
    rw [before_eq_nil empty]
    rfl
  · rename_i nonempty
    have bound := lastPlace_lt nonempty offset
    have same : Text.inStringAt text (min offset (text.utf8ByteSize - 1)) =
        Text.inStringAt text offset := by
      rw [inStringAt_eq_inLiteral, ← before_succ_min, ← inStringAt_eq_inLiteral]
    have walk := descend_eq (s := ⟨Text.inStringAt text offset, 0, 0⟩) (callStep text) (fun _ => none)
      (fun w behind => Call.locateBehind w.inside w.depth w.commas behind) (Walk.Fits text)
      (fun _ => rfl) ?follows bound ?fits
    case follows =>
      intro i b w here fits
      rw [callStep_eq here fits, Call.locateBehind_cons]
      by_cases stop : Call.ends w.inside w.depth b (before text i) = true
      · exact .inl (by simp only [if_pos stop])
      · exact .inr ⟨w.next b (before text i), by simp only [if_neg stop], fits.next b _,
          by simp only [if_neg stop, Walk.next]⟩
    case fits =>
      rw [length_bytes] at bound
      constructor <;> dsimp only <;> omega
    rw [lastPlace_eq nonempty, ok_bind, inStringAt_eq, ok_bind, same, before_succ_min]
    exact walk

theorem locateAtCursor_eq (text : String) (cursor : Nat) :
    locateAtCursor text cursor = .ok (Call.locateAtCursor text cursor) := by
  cases cursor with
  | zero => rfl
  | succ offset => exact locate_eq text offset

def builtin? (r : Registry) (name : String) : Access (Option Builtin) :=
  match r.places[name]? with
  | none => return none
  | some place =>
    match r.entries[place]? with
    | some builtin => return some builtin
    | none => .error (.entry place)

def nameAt (text : String) : Nat → Access String
  | 0 => identifierAround text 0
  | offset + 1 => do
    if ← inStringAt text offset then return "" else identifierAt text offset

def hover (a : Analyzer) (text : String) (cursor : Nat) : Access (Option Hover) := do
  let name ← nameAt text cursor
  if name.isEmpty then
    return none
  else
    match ← builtin? a.registry name with
    | some builtin => return some ⟨builtin.text, builtin.documentation?⟩
    | none => return (Declaration.find? text name).map fun d => ⟨d.rendered, none⟩

def signatureOf (a : Analyzer) (text name : String) : Access (Option SignatureInfo) := do
  match ← builtin? a.registry name with
  | some builtin =>
    return some ⟨builtin.signature.label, builtin.documentation?, builtin.signature.parameters⟩
  | none => return (Declaration.find? text name).map fun d => ⟨d.rendered, none, d.parameters⟩

def signatureHelp (a : Analyzer) (text : String) (cursor : Nat) : Access (Option SignatureHelp) := do
  match ← locateAtCursor text cursor with
  | none => return none
  | some call =>
    match ← signatureOf a text call.name with
    | none => return none
    | some signature =>
      return some ⟨signature,
        a.settings.argumentPolicy.apply call.argument signature.parameters.length⟩

theorem builtin?_eq {r : Registry} (indexed : r.Indexed) (name : String) :
    builtin? r name = .ok (r.get? name) := by
  rw [builtin?, Registry.get?]
  cases found : r.places[name]? with
  | none => rfl
  | some place =>
    obtain ⟨builtin, here, -⟩ := indexed.name_of_place found
    simp [here]

theorem nameAt_eq (text : String) (cursor : Nat) :
    nameAt text cursor = .ok (Analyzer.nameAt text cursor) := by
  cases cursor with
  | zero => exact identifierAround_eq text 0
  | succ offset =>
    rw [nameAt, Analyzer.nameAt, inStringAt_eq, ok_bind, identifierAt_eq]
    cases Text.inStringAt text offset <;> rfl

section
variable {a : Analyzer} (indexed : a.registry.Indexed)
include indexed

theorem hover_eq (text : String) (cursor : Nat) :
    hover a text cursor = .ok (a.hover text cursor) := by
  simp only [hover, nameAt_eq, ok_bind, builtin?_eq indexed, Analyzer.hover, Analyzer.hoverOf]
  split
  · rfl
  · cases a.registry.get? (Analyzer.nameAt text cursor) <;> rfl

theorem signatureOf_eq (text name : String) :
    signatureOf a text name = .ok (a.signatureOf text name) := by
  rw [signatureOf, builtin?_eq indexed, ok_bind, Analyzer.signatureOf]
  cases a.registry.get? name <;> rfl

theorem signatureHelp_eq (text : String) (cursor : Nat) :
    signatureHelp a text cursor = .ok (a.signatureHelp text cursor) := by
  rw [signatureHelp, Analyzer.signatureHelp, locateAtCursor_eq, ok_bind]
  cases Call.locateAtCursor text cursor with
  | none => rfl
  | some call =>
    simp only [signatureOf_eq indexed, ok_bind, Option.bind_eq_bind, Option.bind_some]
    cases a.signatureOf text call.name <;> rfl

end

/-- Whatever the text and the position, also inside of a character or far behind the end: no scanner
and no answer by place reads outside of the text, goes below zero, counts beyond the size of the text
or cuts through a character. -/
theorem no_access_fails {builtins : List Builtin} {a : Analyzer}
    (built : Registry.ofList builtins = .ok a.registry) (text : String) (position : Nat) :
    quoteCount text position = .ok (Text.quoteCount text position) ∧
      identifierAt text position = .ok (Text.identifierAt text position) ∧
      identifierAround text position = .ok (Text.identifierAround text position) ∧
      identifierBefore text position = .ok (Text.identifierBefore text position) ∧
      locate text position = .ok (Call.locate text position) ∧
      locateAtCursor text position = .ok (Call.locateAtCursor text position) ∧
      hover a text position = .ok (a.hover text position) ∧
      signatureHelp a text position = .ok (a.signatureHelp text position) ∧
      floorBoundary text position = .ok (Text.floorBoundary text position) := by
  have indexed := (Registry.indexed_of_ofList built).1
  exact ⟨quoteCount_eq text position, identifierAt_eq text position, identifierAround_eq text position,
    identifierBefore_eq text position, locate_eq text position, locateAtCursor_eq text position,
    hover_eq indexed text position, signatureHelp_eq indexed text position,
    floorBoundary_eq text position⟩

/-- Position 6 lies inside of the last character, and the text ends at 7. -/
theorem no_access_fails_umlaut :
    let go : Builtin := ⟨"go", "void go(int a)", "", "", ⟨"go(int a)", ["int a"]⟩⟩
    let text := "go(1,ü"
    ∃ a : Analyzer, Registry.ofList [go] = .ok a.registry ∧ ¬ IsBoundary text 6 ∧
      quoteCount "" 18446744073709551615 = .ok 0 ∧
      identifierAround text 6 = .ok "" ∧
      identifierBefore text 1 = .ok (some "go") ∧
      locateAtCursor text 6 = .ok (some ⟨"go", 1⟩) ∧
      hover a text 2 = .ok (some ⟨"void go(int a)", none⟩) ∧
      signatureHelp a text 18446744073709551615 =
        .ok (some ⟨⟨"go(int a)", none, ["int a"]⟩, 0⟩) ∧
      floorBoundary text 6 = .ok 5 := by
  intro go text
  have visible : Registry.IsVisible go.name := ⟨'g', by decide, by decide⟩
  have named : Registry.WellNamed [go] :=
    Registry.wellNamed_snoc.mpr ⟨Registry.wellNamed_nil, visible, nofun⟩
  obtain ⟨r, built⟩ := named.ofList
  obtain ⟨indexed, listed⟩ := Registry.indexed_of_ofList built
  have found : r.get? "go" = some go := by
    rw [indexed.get?_eq, listed]
    decide
  let a : Analyzer := ⟨r, [], Settings.default⟩
  have built : Registry.ofList [go] = .ok a.registry := built
  have name : Analyzer.nameAt text 2 = "go" := by decide
  have call : Call.locateAtCursor text 18446744073709551615 = some ⟨"go", 1⟩ := by decide
  have hovered : a.hover text 2 = some ⟨"void go(int a)", none⟩ := by
    have nonempty : "go".isEmpty = false := by decide
    simp only [Analyzer.hover, name, nonempty, Analyzer.hoverOf, a, found]
    decide
  have helped : a.signatureHelp text 18446744073709551615 =
      some ⟨⟨"go(int a)", none, ["int a"]⟩, 0⟩ := by
    simp only [Analyzer.signatureHelp, call, Analyzer.signatureOf, a, found, Option.bind_eq_bind,
      Option.bind_some]
    decide
  obtain ⟨counted, -⟩ := no_access_fails built "" 18446744073709551615
  obtain ⟨-, -, -, ending, -⟩ := no_access_fails built text 1
  obtain ⟨-, -, -, -, -, -, shown, -⟩ := no_access_fails built text 2
  obtain ⟨-, -, around, -, -, located, -, -, floor⟩ := no_access_fails built text 6
  obtain ⟨-, -, -, -, -, -, -, signed, -⟩ := no_access_fails built text 18446744073709551615
  rw [show Text.quoteCount "" 18446744073709551615 = 0 by decide] at counted
  rw [show Text.identifierBefore text 1 = some "go" by decide] at ending
  rw [show Text.identifierAround text 6 = "" by decide] at around
  rw [show Call.locateAtCursor text 6 = some ⟨"go", 1⟩ by decide] at located
  rw [show Text.floorBoundary text 6 = 5 by decide] at floor
  exact ⟨a, built, by decide, counted, around, ending, located, hovered ▸ shown, helped ▸ signed, floor⟩

end NoxAssist.Access
