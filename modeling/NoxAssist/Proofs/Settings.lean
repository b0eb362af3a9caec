import Mathlib.Data.List.Induction
import NoxAssist.Settings

namespace NoxAssist.Settings

/-! ## The grammar of sections -/

structure Content where
  keywords : Option Bool
  builtins : Option Bool
  policy : Option ArgumentPolicy

def Content.settings (content : Content) : Settings :=
  ⟨content.keywords.getD Settings.default.completesKeywords,
    content.builtins.getD Settings.default.completesBuiltins,
    content.policy.getD Settings.default.argumentPolicy⟩

/-- A record with the values of the fields `names`, none for an absent one. In an object other fields
may stand besides, and an array may lack the last values. -/
inductive IsRecord (names : List String) : List (Option Json) → Json → Prop
  | object (fields : List (String × Json)) :
    IsRecord names (names.map fun name => (Json.object fields).field? name) (.object fields)
  | array (items : List Json) (absent : Nat) (size : items.length + absent = names.length) :
    IsRecord names (items.map some ++ List.replicate absent none) (.array items)

inductive IsLeaf {α : Type} (writes : α → Json → Prop) : Option α → Option Json → Prop
  | absent : IsLeaf writes none none
  | null : IsLeaf writes none (some .null)
  | given {value : α} {json : Json} (written : writes value json) :
    IsLeaf writes (some value) (some json)

inductive WritesFlag : Bool → Json → Prop
  | flag (value : Bool) : WritesFlag value (.bool value)

inductive WritesPolicy : ArgumentPolicy → Json → Prop
  | name (policy : ArgumentPolicy) : WritesPolicy policy (.string policy.name)
  | tag (policy : ArgumentPolicy) : WritesPolicy policy (.object [(policy.name, .null)])

inductive WritesCompletion : Option Bool → Option Bool → Option Json → Prop
  | absent : WritesCompletion none none none
  | record {keywords builtins : Option Bool} {first second : Option Json} {part : Json}
    (record : IsRecord ["keywords", "builtins"] [first, second] part)
    (left : IsLeaf WritesFlag keywords first) (right : IsLeaf WritesFlag builtins second) :
    WritesCompletion keywords builtins (some part)

inductive WritesSignatureHelp : Option ArgumentPolicy → Option Json → Prop
  | absent : WritesSignatureHelp none none
  | record {policy : Option ArgumentPolicy} {only : Option Json} {part : Json}
    (record : IsRecord ["activeParameter"] [only] part) (leaf : IsLeaf WritesPolicy policy only) :
    WritesSignatureHelp policy (some part)

def Writes (content : Content) (part : Json) : Prop :=
  ∃ completion signatureHelp,
    IsRecord ["completion", "signatureHelp"] [completion, signatureHelp] part ∧
    WritesCompletion content.keywords content.builtins completion ∧
    WritesSignatureHelp content.policy signatureHelp

/-! ## Reading follows the grammar -/

theorem zipIdx_getElem? {names : List String} {items : List Json} {absent : Nat}
    (size : items.length + absent = names.length) :
    (names.zipIdx.map fun (_, index) => items[index]?) =
      items.map some ++ List.replicate absent none := by
  apply List.ext_getElem
  · simp [size]
  · intro i inNames inValues
    rcases Nat.lt_or_ge i items.length with here | past
    · simp [List.getElem_append_left, here]
    · simp [List.getElem_append_right, past]

theorem recordValues?_eq_some_iff {names : List String} {part : Json}
    {values : List (Option Json)} :
    recordValues? names part = some values ↔ IsRecord names values part := by
  constructor
  · intro read
    cases part with
    | object fields =>
      cases read
      exact .object fields
    | array items =>
      simp only [recordValues?] at read
      split at read
      · rename_i fits
        obtain ⟨absent, size⟩ := Nat.exists_eq_add_of_le fits
        cases read
        rw [zipIdx_getElem? size.symm]
        exact .array items absent size.symm
      · cases read
    | null => cases read
    | bool value => cases read
    | number value => cases read
    | string value => cases read
  · intro record
    cases record with
    | object fields => rfl
    | array items absent size =>
      have fits : items.length ≤ names.length := by omega
      rw [recordValues?, if_pos fits, zipIdx_getElem? size]

theorem readFlag?_eq_some_iff {leaf : Option Json} {flag : Bool} :
    readFlag? leaf = some flag ↔ ∃ given, IsLeaf WritesFlag given leaf ∧ given.getD true = flag := by
  constructor
  · intro read
    cases leaf with
    | none => exact ⟨none, .absent, by cases read; rfl⟩
    | some json =>
      cases json with
      | null => exact ⟨none, .null, by cases read; rfl⟩
      | bool value => exact ⟨some value, .given (.flag value), by cases read; rfl⟩
      | number value => cases read
      | string value => cases read
      | array items => cases read
      | object fields => cases read
  · rintro ⟨given, isLeaf, rfl⟩
    cases isLeaf with
    | absent => rfl
    | null => rfl
    | given written =>
      cases written
      rfl

theorem ofName?_eq_some_iff {name : String} {policy : ArgumentPolicy} :
    ArgumentPolicy.ofName? name = some policy ↔ name = policy.name := by
  constructor
  · intro named
    unfold ArgumentPolicy.ofName? at named
    split at named <;> cases named <;> rfl
  · rintro rfl
    cases policy <;> rfl

theorem readPolicy?_eq_some_iff {leaf : Option Json} {policy : ArgumentPolicy} :
    readPolicy? leaf = some policy ↔
      ∃ given, IsLeaf WritesPolicy given leaf ∧ given.getD .clamp = policy := by
  constructor
  · intro read
    unfold readPolicy? at read
    split at read
    · exact ⟨none, .absent, by cases read; rfl⟩
    · exact ⟨none, .null, by cases read; rfl⟩
    · rw [ofName?_eq_some_iff.mp read]
      exact ⟨some policy, .given (.name policy), rfl⟩
    · rw [ofName?_eq_some_iff.mp read]
      exact ⟨some policy, .given (.tag policy), rfl⟩
    · cases read
  · rintro ⟨given, isLeaf, rfl⟩
    cases isLeaf with
    | absent => rfl
    | null => rfl
    | given written =>
      cases written with
      | name => exact ofName?_eq_some_iff.mpr rfl
      | tag => exact ofName?_eq_some_iff.mpr rfl

theorem readCompletion?_eq_some_iff {part : Option Json} {flags : Bool × Bool} :
    readCompletion? part = some flags ↔
      ∃ keywords builtins, WritesCompletion keywords builtins part ∧
        (keywords.getD true, builtins.getD true) = flags := by
  cases part with
  | none =>
    constructor
    · intro read
      cases read
      exact ⟨none, none, .absent, rfl⟩
    · rintro ⟨keywords, builtins, writes, rfl⟩
      cases writes
      rfl
  | some part =>
    constructor
    · intro read
      obtain ⟨values, listed, read⟩ := Option.bind_eq_some_iff.mp read
      split at read
      · rename_i first second
        obtain ⟨left, leftRead, read⟩ := Option.bind_eq_some_iff.mp read
        obtain ⟨right, rightRead, read⟩ := Option.bind_eq_some_iff.mp read
        obtain ⟨keywords, leftLeaf, rfl⟩ := readFlag?_eq_some_iff.mp leftRead
        obtain ⟨builtins, rightLeaf, rfl⟩ := readFlag?_eq_some_iff.mp rightRead
        cases read
        exact ⟨keywords, builtins,
          .record (recordValues?_eq_some_iff.mp listed) leftLeaf rightLeaf, rfl⟩
      · cases read
    · rintro ⟨keywords, builtins, writes, rfl⟩
      cases writes with
      | record record left right =>
        have leftRead := readFlag?_eq_some_iff.mpr ⟨keywords, left, rfl⟩
        have rightRead := readFlag?_eq_some_iff.mpr ⟨builtins, right, rfl⟩
        simp [readCompletion?, recordValues?_eq_some_iff.mpr record, leftRead, rightRead]

theorem readSignatureHelp?_eq_some_iff {part : Option Json} {policy : ArgumentPolicy} :
    readSignatureHelp? part = some policy ↔
      ∃ given, WritesSignatureHelp given part ∧ given.getD .clamp = policy := by
  cases part with
  | none =>
    constructor
    · intro read
      cases read
      exact ⟨none, .absent, rfl⟩
    · rintro ⟨given, writes, rfl⟩
      cases writes
      rfl
  | some part =>
    constructor
    · intro read
      obtain ⟨values, listed, read⟩ := Option.bind_eq_some_iff.mp read
      split at read
      · obtain ⟨given, leaf, rfl⟩ := readPolicy?_eq_some_iff.mp read
        exact ⟨given, .record (recordValues?_eq_some_iff.mp listed) leaf, rfl⟩
      · cases read
    · rintro ⟨given, writes, rfl⟩
      cases writes with
      | record record leaf =>
        have read := readPolicy?_eq_some_iff.mpr ⟨given, leaf, rfl⟩
        simp [readSignatureHelp?, recordValues?_eq_some_iff.mpr record, read]

theorem ofSection?_eq_some_iff {part : Json} {settings : Settings} :
    ofSection? part = some settings ↔ ∃ content, Writes content part ∧ content.settings = settings := by
  constructor
  · intro read
    obtain ⟨values, listed, read⟩ := Option.bind_eq_some_iff.mp read
    split at read
    · rename_i completion signatureHelp
      obtain ⟨flags, flagsRead, read⟩ := Option.bind_eq_some_iff.mp read
      obtain ⟨policy, policyRead, read⟩ := Option.bind_eq_some_iff.mp read
      obtain ⟨keywords, builtins, writesFlags, rfl⟩ := readCompletion?_eq_some_iff.mp flagsRead
      obtain ⟨given, writesPolicy, rfl⟩ := readSignatureHelp?_eq_some_iff.mp policyRead
      cases read
      exact ⟨⟨keywords, builtins, given⟩, ⟨completion, signatureHelp,
        recordValues?_eq_some_iff.mp listed, writesFlags, writesPolicy⟩, rfl⟩
    · cases read
  · rintro ⟨content, ⟨completion, signatureHelp, record, writesFlags, writesPolicy⟩, rfl⟩
    have flags := readCompletion?_eq_some_iff.mpr ⟨_, _, writesFlags, rfl⟩
    have policy := readSignatureHelp?_eq_some_iff.mpr ⟨_, writesPolicy, rfl⟩
    simp [ofSection?, recordValues?_eq_some_iff.mpr record, flags, policy]
    rfl

/-! ## Applying sections -/

theorem applySection_of_writes {content : Content} {part : Json} (writes : Writes content part)
    (settings : Settings) : settings.applySection part = (content.settings, true) := by
  simp [applySection, ofSection?_eq_some_iff.mpr ⟨content, writes, rfl⟩]

theorem applySection_of_not_writes {part : Json} (unwritten : ∀ content, ¬ Writes content part)
    (settings : Settings) : settings.applySection part = (settings, false) := by
  cases read : ofSection? part with
  | none => simp [applySection, read]
  | some new =>
    obtain ⟨content, writes, -⟩ := ofSection?_eq_some_iff.mp read
    exact absurd writes (unwritten content)

theorem not_writes_null (content : Content) : ¬ Writes content .null := by
  rintro ⟨completion, signatureHelp, record, -⟩
  cases recordValues?_eq_some_iff.mpr record

def Applied (part : Json) : Bool :=
  (Settings.default.applySection part).2

theorem foldl_apply (start : Settings) (sections : List Json) :
    sections.foldl apply start =
      ((sections.filter Applied).getLast?.map Settings.default.apply).getD start := by
  induction sections using List.reverseRecOn with
  | nil => rfl
  | append_singleton sections part ih =>
    rw [List.foldl_append, List.foldl_cons, List.foldl_nil, ih, List.filter_append]
    cases read : ofSection? part with
    | none => simp [Applied, apply, applySection, read]
    | some new => simp [Applied, apply, applySection, read]

/-! ## Spellings of one content -/

inductive Layout where
  | object
  | array

def Layout.record : Layout → List (String × Json) → Json
  | .object, fields => .ofFields fields
  | .array, fields => .array (fields.map (·.2))

def leafOf {α : Type} (write : α → Json) : Option α → Json
  | none => .null
  | some value => write value

def Content.write (outer completion signatureHelp : Layout) (content : Content) : Json :=
  outer.record
    [("completion", completion.record
        [("keywords", leafOf .bool content.keywords), ("builtins", leafOf .bool content.builtins)]),
      ("signatureHelp", signatureHelp.record
        [("activeParameter", leafOf (fun policy => .string policy.name) content.policy)])]

theorem isRecord_ofFields {names : List String} {values : List (Option Json)}
    {fields : List (String × Json)}
    (found : names.map (fun name => (Json.ofFields fields).field? name) = values) :
    IsRecord names values (.ofFields fields) := by
  rw [← found]
  exact .object _

theorem isRecord_pair (layout : Layout) {a b : String} (apart : a ≠ b) (x y : Json) :
    IsRecord [a, b] [some x, some y] (layout.record [(a, x), (b, y)]) := by
  cases layout with
  | array => exact .array [x, y] 0 rfl
  | object =>
    apply isRecord_ofFields
    simp [Json.field?_ofFields, apart.symm]

theorem isRecord_single (layout : Layout) (a : String) (x : Json) :
    IsRecord [a] [some x] (layout.record [(a, x)]) := by
  cases layout with
  | array => exact .array [x] 0 rfl
  | object =>
    apply isRecord_ofFields
    simp [Json.field?_ofFields]

theorem isLeaf_leafOf {α : Type} {writes : α → Json → Prop} {write : α → Json}
    (writing : ∀ value, writes value (write value)) (given : Option α) :
    IsLeaf writes given (some (leafOf write given)) := by
  cases given with
  | none => exact .null
  | some value => exact .given (writing value)

theorem writes_write (outer completion signatureHelp : Layout) (content : Content) :
    Writes content (content.write outer completion signatureHelp) := by
  refine ⟨_, _, isRecord_pair outer (by decide) _ _, ?_, ?_⟩
  · exact .record (isRecord_pair completion (by decide) _ _) (isLeaf_leafOf .flag _)
      (isLeaf_leafOf .flag _)
  · exact .record (isRecord_single signatureHelp _ _) (isLeaf_leafOf .name _)

/-- A section is applied as a whole or not at all, and its effect is that of its content however it is
spelled; of many sections the last one that is applied decides. -/
theorem sections_apply_wholly (start : Settings) (sections : List Json) :
    (∀ part, (∀ content, ¬ Writes content part) →
      ∀ settings : Settings, settings.applySection part = (settings, false)) ∧
    (∀ settings : Settings, settings.applySection .null = (settings, false)) ∧
    (∀ part content, Writes content part →
      ∀ settings : Settings, settings.applySection part = (content.settings, true) ∧
        ∀ outer completion signatureHelp,
          settings.applySection (content.write outer completion signatureHelp) =
            settings.applySection part) ∧
    sections.foldl apply start =
      ((sections.filter Applied).getLast?.map Settings.default.apply).getD start := by
  refine ⟨fun part => applySection_of_not_writes, applySection_of_not_writes not_writes_null, ?_,
    foldl_apply start sections⟩
  intro part content writes settings
  refine ⟨applySection_of_writes writes settings, fun outer completion signatureHelp => ?_⟩
  rw [applySection_of_writes writes, applySection_of_writes (writes_write _ _ _ content)]

theorem sections_apply_wholly_half_read :
    let first := Json.array [.array [.bool false],
      .object [("activeParameter", .object [("raw", .null)]), ("other", .bool true)]]
    let second := Json.object [("completion", .object [("keywords", .bool true)]),
      ("signatureHelp", .object [("activeParameter", .string "sideways")])]
    [first, second, .null].foldl apply Settings.default = ⟨false, true, .raw⟩ := by
  intro first second
  rw [(sections_apply_wholly Settings.default [first, second, .null]).2.2.2]
  rfl

end NoxAssist.Settings
