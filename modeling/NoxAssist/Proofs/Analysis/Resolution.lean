import NoxAssist.Analysis
import NoxAssist.Proofs.Builtin.Registry
import NoxAssist.Proofs.Text.Identifier

namespace NoxAssist

inductive Meaning where
  | builtin (b : Builtin)
  | declared (d : Declaration)

namespace Meaning

def hover : Meaning → Hover
  | .builtin b => ⟨b.text, b.documentation?⟩
  | .declared d => ⟨d.rendered, none⟩

def signature : Meaning → SignatureInfo
  | .builtin b => ⟨b.signature.label, b.documentation?, b.signature.parameters⟩
  | .declared d => ⟨d.rendered, none, d.parameters⟩

def completion : Meaning → Completion
  | .builtin b => Analyzer.builtinCompletion b
  | .declared d => Analyzer.declarationCompletion d

theorem signature_hover (m : Meaning) : m.hover.signature = m.completion.detail := by
  cases m <;> rfl

theorem documentation_signature (m : Meaning) :
    m.signature.documentation = m.hover.documentation := by
  cases m <;> rfl

theorem label_declared (d : Declaration) :
    (declared d).signature.label = (declared d).completion.detail := rfl

end Meaning

namespace Analyzer
open Text

def meaning? (a : Analyzer) (text name : String) : Option Meaning :=
  ((a.registry.get? name).map .builtin).or ((Declaration.find? text name).map .declared)

def listed? (a : Analyzer) (text name : String) : Option Completion :=
  (a.completions text).find? fun c => c.kind == .function && c.label == name

structure PointsAt (text name : String) (cursor : Nat) : Prop where
  touches : Touches text name cursor
  outside : cursor = 0 ∨ inStringAt text (cursor - 1) = false

theorem map_meaning? {β : Type} (view : Meaning → β) (a : Analyzer) (text name : String) :
    (a.meaning? text name).map view =
      ((a.registry.get? name).map fun b => view (.builtin b)).or
        ((Declaration.find? text name).map fun d => view (.declared d)) := by
  rw [meaning?, Option.map_or, Option.map_map, Option.map_map]
  rfl

theorem hoverOf_eq_meaning (a : Analyzer) (text name : String) :
    a.hoverOf text name = (a.meaning? text name).map Meaning.hover := by
  rw [map_meaning?, hoverOf]
  cases a.registry.get? name <;> rfl

theorem signatureOf_eq_meaning (a : Analyzer) (text name : String) :
    a.signatureOf text name = (a.meaning? text name).map Meaning.signature := by
  rw [map_meaning?, signatureOf]
  cases a.registry.get? name <;> rfl

theorem find?_keywords (keywords : List String) (name : String) :
    (keywords.map keywordCompletion).find?
      (fun c => c.kind == .function && c.label == name) = none := by
  simp [keywordCompletion]

theorem find?_builtins (builtins : List Builtin) (name : String) :
    (builtins.map builtinCompletion).find? (fun c => c.kind == .function && c.label == name) =
      (builtins.find? (Registry.Named name)).map builtinCompletion := by
  rw [List.find?_map]
  rfl

theorem find?_declarations (text name : String) :
    ((Declaration.scan text).map declarationCompletion).find?
        (fun c => c.kind == .function && c.label == name) =
      (Declaration.find? text name).map declarationCompletion := by
  rw [List.find?_map]
  rfl

theorem listed?_eq (a : Analyzer) (lists : a.settings.completesBuiltins = true)
    (text name : String) :
    a.listed? text name =
      ((a.registry.toList.find? (Registry.Named name)).map builtinCompletion).or
        ((Declaration.find? text name).map declarationCompletion) := by
  have keywords : (if a.settings.completesKeywords then a.keywords.map keywordCompletion
      else []).find? (fun c => c.kind == .function && c.label == name) = none := by
    cases a.settings.completesKeywords with
    | true => exact find?_keywords a.keywords name
    | false => rfl
  rw [listed?, completions, if_pos lists, List.find?_append, List.find?_append, keywords,
    find?_builtins, find?_declarations, Option.none_or]

theorem listed?_eq_meaning (a : Analyzer) (indexed : a.registry.Indexed)
    (lists : a.settings.completesBuiltins = true) (text name : String) :
    a.listed? text name = (a.meaning? text name).map Meaning.completion := by
  rw [map_meaning?, listed?_eq a lists, indexed.get?_eq]
  rfl

theorem nameAt_of_pointsAt {text name : String} {cursor : Nat} (points : PointsAt text name cursor) :
    nameAt text cursor = name := by
  have around := identifierAround_of_touches points.touches
  cases cursor with
  | zero => exact around
  | succ offset =>
    have outside : inStringAt text offset = false := by simpa using points.outside
    simpa [nameAt, outside, identifierAt] using around

theorem hover_of_pointsAt (a : Analyzer) {text name : String} {cursor : Nat}
    (points : PointsAt text name cursor) :
    a.hover text cursor = (a.meaning? text name).map Meaning.hover := by
  obtain ⟨front, back, -, stands, -⟩ := points.touches
  have named : name.isEmpty = false := by simpa using stands.named
  simp [hover, nameAt_of_pointsAt points, named, hoverOf_eq_meaning]

theorem signature_signatureHelp (a : Analyzer) {text : String} {cursor : Nat} {call : Call}
    (located : Call.locateAtCursor text cursor = some call) :
    (a.signatureHelp text cursor).map (·.signature) =
      (a.meaning? text call.name).map Meaning.signature := by
  rw [← signatureOf_eq_meaning]
  cases shown : a.signatureOf text call.name with
  | none => simp [signatureHelp, located, shown]
  | some signature => simp [signatureHelp, located, shown]

/-- Hovers, completions and signature help show one function for a name: the first builtin that has
it, or else the first declaration. -/
theorem answers_resolve_alike {builtins : List Builtin} {registry : Registry}
    (built : Registry.ofList builtins = .ok registry) (keywords : List String) (settings : Settings)
    (lists : settings.completesBuiltins = true) (text name : String) :
    let a : Analyzer := ⟨registry, keywords, settings⟩
    let listed := a.listed? text name
    listed = ((builtins.find? (Registry.Named name)).map builtinCompletion).or
        ((Declaration.find? text name).map declarationCompletion) ∧
      (∀ cursor, PointsAt text name cursor →
        (a.hover text cursor).map (·.signature) = listed.map (·.detail)) ∧
      ∀ cursor call, Call.locateAtCursor text cursor = some call → call.name = name →
        (a.signatureHelp text cursor).isSome = listed.isSome ∧
        (∀ place, PointsAt text name place →
          (a.signatureHelp text cursor).map (·.signature.documentation) =
            (a.hover text place).map (·.documentation)) ∧
        ((∀ b ∈ builtins, b.name ≠ name) →
          (a.signatureHelp text cursor).map (·.signature.label) = listed.map (·.detail) ∧
          ∀ place, PointsAt text name place →
            (a.signatureHelp text cursor).map (·.signature.label) =
              (a.hover text place).map (·.signature)) := by
  intro a listed
  obtain ⟨indexed, same⟩ := Registry.indexed_of_ofList built
  have meaning : listed = (a.meaning? text name).map Meaning.completion :=
    listed?_eq_meaning a indexed lists text name
  have hovered : ∀ cursor, PointsAt text name cursor →
      (a.hover text cursor).map (·.signature) = listed.map (·.detail) := by
    intro cursor points
    simp [hover_of_pointsAt a points, meaning, Function.comp_def, Meaning.signature_hover]
  refine ⟨same ▸ listed?_eq a lists text name, hovered, ?_⟩
  rintro cursor call located rfl
  have shown := signature_signatureHelp a located
  refine ⟨?_, ?_, ?_⟩
  · have exists_iff := congrArg Option.isSome shown
    simpa [meaning] using exists_iff
  · intro place points
    have documented := congrArg (Option.map SignatureInfo.documentation) shown
    simpa [hover_of_pointsAt a points, Function.comp_def, Meaning.documentation_signature]
      using documented
  · intro absent
    have undefined : registry.get? call.name = none := by
      rw [indexed.get?_eq, same]
      simpa [Registry.Named] using absent
    have labelled : (a.signatureHelp text cursor).map (·.signature.label) = listed.map (·.detail) := by
      have labels := congrArg (Option.map SignatureInfo.label) shown
      simpa [a, meaning, meaning?, undefined, Function.comp_def, Meaning.label_declared] using labels
    exact ⟨labelled, fun place points => labelled.trans (hovered place points).symm⟩

theorem answers_resolve_alike_redeclared :
    let print : Builtin := ⟨"Print", "void Print(string s)", "", "Shows s.", ⟨"Print(s)", ["s"]⟩⟩
    let text := "int go (int a)\nvoid go ()\ngo(1, "
    ∃ registry, Registry.ofList [print] = .ok registry ∧
      let a : Analyzer := ⟨registry, ["go"], Settings.default⟩
      (a.hover text 26).map (·.signature) = some "int go (int a)" ∧
        (a.signatureHelp text 32).map (·.signature.label) = some "int go (int a)" := by
  intro print text
  have built : Registry.ofList [print] =
      .ok ⟨#[print], (∅ : Std.HashMap String Nat).insert "Print" 0⟩ := by
    have visible : Text.isAllBlank "Print" = false := by decide
    simp [Registry.ofList, Registry.add, Registry.empty, print, visible]
  obtain ⟨listed, hovered, helped⟩ :=
    answers_resolve_alike built ["go"] Settings.default rfl text "go"
  have points : PointsAt text "go" 26 := by
    refine ⟨⟨"int go (int a)\nvoid go ()\n", "(1, ", by decide, ?_, by decide, by decide⟩, by decide⟩
    exact ⟨by decide, List.all_eq_true.mp (by decide), by decide, by decide⟩
  have call : Call.locateAtCursor text 32 = some ⟨"go", 1⟩ := by decide
  have absent : ∀ b ∈ [print], b.name ≠ "go" := by decide
  have first : (Declaration.find? text "go").map declarationCompletion =
      some ⟨"go", .function, "int go (int a)", none⟩ := by decide +kernel
  have found := listed.trans (congrArg (Option.or none) first)
  have detail := congrArg (Option.map Completion.detail) found
  refine ⟨_, built, (hovered 26 points).trans detail, ?_⟩
  exact ((helped 32 _ call rfl).2.2 absent).1.trans detail

end Analyzer

end NoxAssist
