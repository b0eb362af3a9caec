import NoxAssist.Proofs.Server.Conduct

namespace NoxAssist

/-! ## Writing -/

def Position.Fits (p : Position) : Prop :=
  p.line ≤ 0xffffffff ∧ p.character ≤ 0xffffffff

def Position.toJson (p : Position) : Json :=
  .object [("character", .ofNat p.character), ("line", .ofNat p.line)]

def Range.toJson (range : Range) : Json :=
  .object [("end", range.stop.toJson), ("start", range.start.toJson)]

namespace Change

def Fits : Change → Prop
  | .replace _ => True
  | .edit range _ => range.start.Fits ∧ range.stop.Fits

def toJson : Change → Json
  | .replace text => .object [("text", .string text)]
  | .edit range text => .object [("range", range.toJson), ("text", .string text)]

end Change

/-! ## Reading -/

namespace Json

variable {a b : String}

theorem ofFields_swapped (sorted : a < b) (x y : Json) :
    ofFields [(b, y), (a, x)] = .object [(a, x), (b, y)] :=
  congrArg object (if_pos sorted)

theorem ofFields_sorted (sorted : ¬ b < a) (apart : b ≠ a) (x y : Json) :
    ofFields [(a, x), (b, y)] = .object [(a, x), (b, y)] :=
  congrArg object ((if_neg sorted).trans (if_neg apart))

end Json

namespace Schema

theorem readIn_uri {uri address : String} (named : Uri.normalize uri = .ok address)
    (isNested : Bool) : readIn isNested .uri (.string uri) = .ok (.string address) := by
  simp only [readIn, readUri, named]
  rfl

theorem readIn_integer (name : String) {low high n : Int} (above : low ≤ n) (below : n ≤ high)
    (isNested : Bool) : readIn isNested (.integer name low high) (.ofInt n) = .ok (.ofInt n) := by
  simp [readIn, Json.ofInt, above, below]

theorem readIn_unsigned {n : Nat} (fits : n ≤ 0xffffffff) (isNested : Bool) :
    readIn isNested unsigned (.ofNat n) = .ok (.ofNat n) :=
  readIn_integer "u32" (Int.natCast_nonneg n) (Int.ofNat_le.mpr fits) isNested

theorem readIn_signed {n : Int} (fits : -0x80000000 ≤ n ∧ n ≤ 0x7fffffff) (isNested : Bool) :
    readIn isNested signed (.ofInt n) = .ok (.ofInt n) :=
  readIn_integer "i32" fits.1 fits.2 isNested

theorem readIn_text (text : String) (isNested : Bool) :
    readIn isNested .text (.string text) = .ok (.string text) := by
  rw [readIn]

inductive FieldsRead (isNested : Bool) :
    List (String × Bool × Schema) → List (Option Json) → List (String × Json) → Prop
  | nil : FieldsRead isNested [] [] []
  | given {name : String} {mayLack : Bool} {shape : Schema} {value read : Json}
    {fields : List (String × Bool × Schema)} {values : List (Option Json)}
    {normal : List (String × Json)} (written : value.isNull = false)
    (reads : readIn isNested shape value = .ok read) (rest : FieldsRead isNested fields values normal) :
    FieldsRead isNested ((name, mayLack, shape) :: fields) (some value :: values)
      ((name, read) :: normal)
  | absent {name : String} {mayLack : Bool} {shape : Schema}
    {fields : List (String × Bool × Schema)} {values : List (Option Json)}
    {normal : List (String × Json)} (rest : FieldsRead isNested fields values normal) :
    FieldsRead isNested ((name, mayLack, shape) :: fields) (none :: values) normal

theorem firstMismatch?_eq_none {results : List FieldResult}
    (read : ∀ result ∈ results, result.2.isOk = true) : firstMismatch? results = none := by
  apply List.findSome?_eq_none_iff.mpr
  intro result member
  have ok := read result member
  cases value : result.2 with
  | ok found => rfl
  | error mismatch => simp [value, Except.isOk, Except.toBool] at ok

theorem finishObject_of_isOk {fields : List (String × Bool × Schema)} {names : List String}
    {results : List FieldResult} (read : ∀ result ∈ results, result.2.isOk = true)
    (complete : missingField? fields names = none) :
    finishObject fields names results = .ok (present results) := by
  -- Sorting keeps the members, so it is enough that none of them is a mismatch.
  have sorted : firstMismatch? (results.mergeSort fun a b => a.1 ≤ b.1) = none :=
    firstMismatch?_eq_none fun result member => read result (List.mem_mergeSort.mp member)
  simp only [finishObject, sorted, complete]

theorem FieldsRead.readFields {isNested : Bool} {fields : List (String × Bool × Schema)}
    {values : List (Option Json)} {normal : List (String × Json)}
    (reads : FieldsRead isNested fields values normal) :
    (∀ result ∈ readFields isNested fields values, result.2.isOk = true) ∧
      present (Schema.readFields isNested fields values) = normal := by
  induction reads with
  | nil => simp [Schema.readFields, present]
  | given written read rest ih =>
    obtain ⟨ok, rest⟩ := ih
    simp only [Schema.readFields, written, read, Bool.false_and]
    refine ⟨List.forall_mem_cons.mpr ⟨rfl, ok⟩, ?_⟩
    rw [← rest]
    rfl
  | absent rest ih =>
    obtain ⟨ok, rest⟩ := ih
    simp only [Schema.readFields]
    refine ⟨List.forall_mem_cons.mpr ⟨rfl, ok⟩, ?_⟩
    rw [← rest]
    rfl

theorem readIn_record {isNested : Bool} {name : String} {fields : List (String × Bool × Schema)}
    {entries normal : List (String × Json)}
    (reads : FieldsRead isNested fields
      (fields.map fun field => (Json.object entries).field? field.1) normal)
    (complete : missingField? fields (entries.map (·.1)) = none) :
    readIn isNested (.record name fields) (.object entries) = .ok (.ofFields normal) := by
  obtain ⟨ok, rfl⟩ := reads.readFields
  rw [readIn]
  simp only [finishObject_of_isOk ok complete]
  rfl

theorem readIn_position {p : Position} (fits : p.Fits) (isNested : Bool) :
    readIn isNested Shape.position p.toJson = .ok p.toJson := by
  have read : readIn isNested Shape.position p.toJson =
      .ok (.ofFields [("line", .ofNat p.line), ("character", .ofNat p.character)]) :=
    readIn_record (.given rfl (readIn_unsigned fits.1 _)
      (.given rfl (readIn_unsigned fits.2 _) .nil)) rfl
  rw [read, Json.ofFields_swapped (by decide +kernel)]
  rfl

theorem readIn_range {range : Range} (fits : range.start.Fits ∧ range.stop.Fits) (isNested : Bool) :
    readIn isNested Shape.range range.toJson = .ok range.toJson := by
  have read : readIn isNested Shape.range range.toJson =
      .ok (.ofFields [("start", range.start.toJson), ("end", range.stop.toJson)]) :=
    readIn_record (.given rfl (readIn_position fits.1 _)
      (.given rfl (readIn_position fits.2 _) .nil)) rfl
  rw [read, Json.ofFields_swapped (by decide +kernel)]
  rfl

theorem readIn_change {change : Change} (fits : change.Fits) (isNested : Bool) :
    readIn isNested Shape.change change.toJson = .ok change.toJson := by
  cases change with
  | replace text =>
    have read : readIn isNested Shape.change (.object [("text", .string text)]) =
        .ok (.ofFields [("text", .string text)]) :=
      readIn_record (.absent (.absent (.given rfl (readIn_text _ _) .nil))) rfl
    exact read
  | edit range text =>
    have given : readIn isNested (.optional Shape.range) range.toJson = .ok range.toJson := by
      rw [readIn, readIn_range fits]
      rintro ⟨⟩
    have read : readIn isNested Shape.change (.object [("range", range.toJson), ("text", .string text)]) =
        .ok (.ofFields [("range", range.toJson), ("text", .string text)]) :=
      readIn_record (.given rfl given (.absent (.given rfl (readIn_text _ _) .nil))) rfl
    rw [Change.toJson, read, Json.ofFields_sorted (by decide +kernel) (by decide)]

theorem readIn_document {uri address : String} (named : Uri.normalize uri = .ok address)
    (isNested : Bool) :
    readIn isNested Shape.document (.ofFields [("uri", .string uri)]) =
      .ok (.ofFields [("uri", .string address)]) :=
  readIn_record (.given rfl (readIn_uri named _) .nil) rfl

theorem readIn_list {α : Type} {isNested : Bool} {shape : Schema} {write : α → Json} {items : List α}
    (reads : ∀ item ∈ items, readIn isNested shape (write item) = .ok (write item)) :
    readIn isNested (.list shape) (.array (items.map write)) = .ok (.array (items.map write)) := by
  have each : (items.map write).mapM (readIn isNested shape) = .ok (items.map write) := by
    induction items with
    | nil => rfl
    | cons item items ih =>
      rw [List.forall_mem_cons] at reads
      rw [List.map_cons, List.mapM_cons, reads.1, ih reads.2]
      rfl
  rw [readIn, each]
  rfl

end Schema

/-! ## Notifications -/

namespace Request

def opening (uri : String) (version : Int) (text : String) : Request :=
  ⟨none, "textDocument/didOpen", some (.object
    [("textDocument", .object
      [("languageId", .string languageId), ("text", .string text), ("uri", .string uri),
        ("version", .ofInt version)])])⟩

def changing (uri : String) (version : Int) (changes : List Change) : Request :=
  ⟨none, "textDocument/didChange", some (.object
    [("contentChanges", .array (changes.map Change.toJson)),
      ("textDocument", .object [("uri", .string uri), ("version", .ofInt version)])])⟩

def closing (uri : String) : Request :=
  ⟨none, "textDocument/didClose", some (.object
    [("textDocument", .object [("uri", .string uri)])])⟩

variable {uri address : String} {version : Int}

theorem action_notification (method : Method) {name : String} {shape : Schema} {written read : Json}
    (named : Method.ofName? name = some method) (silent : method.isRequest = false)
    (live : method ≠ .exit) (shaped : method.paramsShape = some shape)
    (reads : shape.read written = .ok read) :
    (⟨none, name, some written⟩ : Request).action .running = method.action read := by
  have served : (⟨none, name, some written⟩ : Request).served method = method.action read := by
    simp [Request.served, params?, silent, Server.readParams, shaped, reads, Except.toOption]
  cases method <;> simp_all [action, Method.isRequest]

theorem action_opening (named : Uri.normalize uri = .ok address)
    (fits : -0x80000000 ≤ version ∧ version ≤ 0x7fffffff) (text : String) :
    (opening uri version text).action .running = .revise address (.opened version text) := by
  have read : Shape.didOpen.read (.object [("textDocument", .object
      [("languageId", .string languageId), ("text", .string text), ("uri", .string uri),
        ("version", .ofInt version)])]) =
      .ok (.ofFields [("textDocument", .ofFields
        [("uri", .string address), ("languageId", .string languageId), ("version", .ofInt version),
          ("text", .string text)])]) :=
    Schema.readIn_record (.given rfl (Schema.readIn_record
      (.given rfl (Schema.readIn_uri named _) (.given rfl (Schema.readIn_text _ _)
        (.given rfl (Schema.readIn_signed fits _) (.given rfl (Schema.readIn_text _ _) .nil))))
      rfl) .nil) rfl
  rw [opening, action_notification .didOpen rfl rfl nofun rfl read]
  simp [Method.action, Method.uriOf, Method.partField, Method.textField, Method.intField,
    Json.field?_ofFields, Json.ofOption, Json.ofInt]

theorem changeOf_toJson (change : Change) : Method.changeOf change.toJson = change := by
  cases change with
  | replace text => rfl
  | edit range text =>
    simp [Method.changeOf, Change.toJson, Range.toJson, Position.toJson, Json.field?,
      Method.positionOf, Method.partField, Method.textField, Method.intField, Json.ofOption, Json.ofNat]

theorem action_changing (named : Uri.normalize uri = .ok address)
    (fits : -0x80000000 ≤ version ∧ version ≤ 0x7fffffff) {changes : List Change}
    (small : ∀ change ∈ changes, change.Fits) :
    (changing uri version changes).action .running = .revise address (.changed version changes) := by
  have listed : Schema.readIn false (.list Shape.change) (.array (changes.map Change.toJson)) =
      .ok (.array (changes.map Change.toJson)) :=
    Schema.readIn_list fun change member => Schema.readIn_change (small change member) false
  have read : Shape.didChange.read (.object
      [("contentChanges", .array (changes.map Change.toJson)),
        ("textDocument", .object [("uri", .string uri), ("version", .ofInt version)])]) =
      .ok (.ofFields
        [("textDocument", .ofFields [("uri", .string address), ("version", .ofInt version)]),
          ("contentChanges", .array (changes.map Change.toJson))]) :=
    Schema.readIn_record (.given rfl (Schema.readIn_record
      (.given rfl (Schema.readIn_uri named _) (.given rfl (Schema.readIn_signed fits _) .nil)) rfl)
      (.given rfl listed .nil)) rfl
  rw [changing, action_notification .didChange rfl rfl nofun rfl read]
  simp [Method.action, Method.uriOf, Method.partField, Method.textField, Method.intField,
    Method.changesOf, Json.field?_ofFields, Json.ofOption, Json.ofInt, Function.comp_def,
    changeOf_toJson]

theorem action_closing (named : Uri.normalize uri = .ok address) :
    (closing uri).action .running = .revise address .closed := by
  have read : Shape.didClose.read (.object [("textDocument", .object [("uri", .string uri)])]) =
      .ok (.ofFields [("textDocument", .object [("uri", .string address)])]) :=
    Schema.readIn_record (.given rfl (Schema.readIn_document named _) .nil) rfl
  exact action_notification .didClose rfl rfl nofun rfl read

end Request

/-! ## Questions -/

def Position.placed (p : Position) (uri : String) : Json :=
  .object [("position", p.toJson), ("textDocument", .object [("uri", .string uri)])]

namespace Schema

variable {uri address : String} {p : Position}

end Schema

namespace Request

variable {uri address : String} {p : Position}

end Request

end NoxAssist
