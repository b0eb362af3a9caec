import Mathlib.Data.List.Forall2
import Mathlib.Data.List.Nodup
import NoxAssist.Proofs.Builtin.Registry
import NoxAssist.Proofs.Json.Passage

/-!
# The spellings of a table

A list of builtins can be written in many ways: every record as an array or as an object, the members
of an object in any order and among foreign ones, every string with its own escapes, and white space
between all words. `WritesTable` says which texts these are. Each reader of a table reads the spellings
of what it reads and stops right behind them (`Reads`), lists and records because their parts do, so that
a table gives the builtins that it spells (`decode_of_writes`).
-/

namespace NoxAssist.Builtin.Table
open Json

/-! ## Spellings -/

def WritesList {α : Type} (writes : α → List Char → Prop) (values : List α) (text : List Char) :
    Prop :=
  ∃ items inside, List.Forall₂ writes values items ∧ Listed true items inside ∧
    text = '[' :: (inside ++ [']'])

/-- A field of a record: its name, the spellings of its value, and whether an object may lack it. -/
structure Part where
  name : String
  writes : List Char → Prop
  optional : Prop

structure IsMember (parts : List Part) (name : String) (m : Member) : Prop where
  key : WritesString name m.key
  spaced : m.Spaced
  known : ∀ part ∈ parts, part.name = name → part.writes m.value
  unknown : name ∉ parts.map Part.name → IsValue m.value

def fieldNames (parts : List Part) (members : List (String × Member)) : List String :=
  (members.map Prod.fst).filter (parts.map Part.name).contains

def Suffice (parts : List Part) (names : List String) : Prop :=
  ∀ part ∈ parts, part.name ∈ names ∨ part.optional

structure Holds (parts : List Part) (members : List (String × Member)) : Prop where
  each : ∀ m ∈ members, IsMember parts m.1 m.2
  once : (fieldNames parts members).Nodup
  complete : Suffice parts (members.map Prod.fst)

inductive WritesRecord (parts : List Part) : List Char → Prop
  | array {items : List (List Char)} {inside : List Char}
      (values : List.Forall₂ Part.writes parts items) (listed : Listed true items inside) :
      WritesRecord parts ('[' :: (inside ++ [']']))
  | object {members : List (String × Member)} {inside : List Char} (holds : Holds parts members)
      (listed : Listed true (members.map fun m => m.2.text) inside) :
      WritesRecord parts ('{' :: (inside ++ ['}']))

def parameterParts (label : String) : List Part :=
  [⟨"label", WritesString label, False⟩]

def WritesParameter (label : String) : List Char → Prop :=
  WritesRecord (parameterParts label)

def signatureParts (s : Signature) : List Part :=
  [⟨"label", WritesString s.label, False⟩,
   ⟨"parameters", WritesList WritesParameter s.parameters, s.parameters = []⟩]

def WritesSignature (s : Signature) : List Char → Prop :=
  WritesRecord (signatureParts s)

def entryParts (b : Builtin) : List Part :=
  [⟨"name", WritesString b.name, False⟩,
   ⟨"text", WritesString b.text, False⟩,
   ⟨"brief", WritesString b.brief, b.brief = ""⟩,
   ⟨"detail", WritesString b.detail, b.detail = ""⟩,
   ⟨"signature", WritesSignature b.signature, False⟩]

def WritesEntry (b : Builtin) : List Char → Prop :=
  WritesRecord (entryParts b)

def WritesTable (builtins : List Builtin) (text : List Char) : Prop :=
  ∃ gap list gap', IsGap gap ∧ WritesList WritesEntry builtins list ∧ IsGap gap' ∧
    text = gap ++ (list ++ gap')

/-! ## Texts and lists -/

/-- The reader reads the spellings of a value, behind white space and before anything. -/
structure Reads {α : Type} (reader : List Char → Except Fault (α × List Char))
    (writes : α → List Char → Prop) : Prop where
  begins : ∀ {a text}, writes a text → Begins text
  reads : ∀ {a gap text}, IsGap gap → writes a text → ∀ rest,
    reader (gap ++ (text ++ rest)) = .ok (a, rest)

theorem reads_text : Reads readText WritesString where
  begins := by
    rintro value text ⟨body, -, rfl⟩
    exact begins_cons (by decide) (by decide) _
  reads := by
    rintro value gap text isGap ⟨body, writes, rfl⟩ rest
    have string := readString_of_writesBody writes [] rest
    simp only [List.cons_append, List.append_assoc, List.nil_append, readText]
    rw [skipSpace_gap_cons isGap (by decide)]
    simp only [string, lift, List.reverse_nil, List.nil_append, String.ofList_toList]

theorem nextItem?_nil (isFirst : Bool) {gap : List Char} (isGap : IsGap gap) (rest : List Char) :
    nextItem? isFirst (gap ++ ']' :: rest) = .ok none := by
  rw [nextItem?, skipSpace_gap_cons isGap (by decide)]
  rfl

theorem nextItem?_cons {isFirst : Bool} {separator text : List Char}
    (separates : IsSeparator isFirst separator) (begins : Begins text) :
    nextItem? isFirst (separator ++ text) = .ok (some text) := by
  obtain ⟨c, rest, rfl, solid, other⟩ := begins
  simp only [List.mem_cons, List.not_mem_nil, or_false, not_or] at other
  obtain ⟨noComma, noList, -⟩ := other
  cases separates with
  | space isGap =>
    rw [nextItem?, skipSpace_gap_cons isGap solid]
    simp [noComma, noList]
  | comma isGap isGap' =>
    rw [List.append_assoc, List.cons_append, nextItem?, skipSpace_gap_cons isGap (by decide)]
    simp [skipSpace_gap_cons isGap' solid, noList]

theorem closeArray_gap {gap : List Char} (isGap : IsGap gap) (rest : List Char) :
    closeArray (gap ++ ']' :: rest) = .ok rest := by
  rw [closeArray, skipSpace_gap_cons isGap (by decide)]
  rfl

theorem nextField?_nil (isFirst : Bool) {gap : List Char} (isGap : IsGap gap) (rest : List Char) :
    nextField? isFirst (gap ++ '}' :: rest) = .ok none := by
  rw [nextField?, skipSpace_gap_cons isGap (by decide)]
  rfl

theorem nextField?_cons {isFirst : Bool} {separator key : List Char} {name : String}
    (separates : IsSeparator isFirst separator) (writes : WritesString name key)
    (rest : List Char) :
    nextField? isFirst (separator ++ (key ++ rest)) = .ok (some (name, rest)) := by
  obtain ⟨body, writes, rfl⟩ := writes
  have string := readString_of_writesBody writes [] rest
  rw [List.reverse_nil, List.nil_append, String.ofList_toList] at string
  simp only [List.cons_append, List.append_assoc, List.nil_append]
  cases separates with
  | space isGap =>
    rw [nextField?, skipSpace_gap_cons isGap (by decide)]
    simp only [string]
    rfl
  | comma isGap isGap' =>
    rw [List.append_assoc, List.cons_append, nextField?, skipSpace_gap_cons isGap (by decide)]
    simp only [skipSpace_gap_cons isGap' (c := '"') (by decide), string]
    rfl

theorem closeObject_gap {gap : List Char} (isGap : IsGap gap) (rest : List Char) :
    closeObject (gap ++ '}' :: rest) = .ok rest := by
  rw [closeObject, skipSpace_gap_cons isGap (by decide)]
  rfl

theorem readColon_gap {gap : List Char} (isGap : IsGap gap) (rest : List Char) :
    readColon (gap ++ ':' :: rest) = .ok rest := by
  rw [readColon, skipSpace_gap_cons isGap (by decide)]
  rfl

section List
variable {α : Type} {item : List Char → Except Fault (α × List Char)}
  {writes : α → List Char → Prop} (reads : Reads item writes)
include reads

theorem readItems_of_listed {values : List α} {items : List (List Char)}
    (written : List.Forall₂ writes values items) {fuel : Nat} (enough : items.length < fuel)
    (read : List α) {inside : List Char} (listed : Listed read.isEmpty items inside)
    (rest : List Char) :
    readItems item fuel read (inside ++ ']' :: rest) = .ok (read.reverse ++ values, rest) := by
  induction written generalizing fuel read inside with
  | nil =>
    obtain ⟨fuel, rfl⟩ := Nat.exists_eq_add_one_of_ne_zero (by omega : fuel ≠ 0)
    cases listed with
    | nil isGap =>
      rw [readItems, nextItem?_nil _ isGap, closeArray_gap isGap]
      simp [lift]
      rfl
  | @cons value text values items first more ih =>
    obtain ⟨fuel, rfl⟩ := Nat.exists_eq_add_one_of_ne_zero (by omega : fuel ≠ 0)
    cases listed with
    | @cons _ separator _ following _ separates later =>
      have here := reads.reads (nofun : IsGap []) first (following ++ ']' :: rest)
      have last := ih (by simpa using enough) (value :: read) later
      rw [List.nil_append] at here
      rw [readItems, List.append_assoc, List.append_assoc,
        nextItem?_cons separates ((reads.begins first).append _)]
      simp only [lift, bind, Except.bind, here]
      rw [last, List.reverse_cons, List.append_assoc, List.singleton_append]

theorem reads_list : Reads (readList item) (WritesList writes) where
  begins := by
    rintro values text ⟨items, inside, -, -, rfl⟩
    exact begins_cons (by decide) (by decide) _
  reads := by
    rintro values gap text isGap ⟨items, inside, written, listed, rfl⟩ rest
    simp only [List.cons_append, List.append_assoc, List.nil_append, readList]
    rw [skipSpace_gap_cons isGap (by decide)]
    exact readItems_of_listed reads written (listed.length_lt ']' rest) [] listed rest

end List

/-! ## Records -/

def noted (parts : List Part) (seen : List String) (name : String) : List String :=
  if name ∈ parts.map Part.name then name :: seen else seen

theorem fieldNames_cons (parts : List Part) (name : String) (m : Member)
    (members : List (String × Member)) (seen : List String) :
    (fieldNames parts ((name, m) :: members)).reverse ++ seen =
      (fieldNames parts members).reverse ++ noted parts seen name := by
  by_cases known : name ∈ parts.map Part.name <;> simp [fieldNames, noted, known]

section Record
variable {δ : Type}

/-- The field reads a part of the record into a draft, which is given by the names that were read. -/
structure Fills (draft : List String → δ) (field : Field δ) (part : Part) : Prop where
  name : field.name = part.name
  present : ∀ seen, field.isPresent (draft seen) = seen.contains part.name
  required : field.isRequired = true → ¬ part.optional
  begins : ∀ {text}, part.writes text → Begins text
  read : ∀ {gap text}, IsGap gap → part.writes text → ∀ seen rest,
    field.read (draft seen) (gap ++ (text ++ rest)) = .ok (draft (part.name :: seen), rest)

variable {draft : List String → δ} {fields : List (Field δ)} {parts : List Part}
  (fills : List.Forall₂ (Fills draft) fields parts)
include fills

theorem readArrayForm_of_listed {items : List (List Char)}
    (written : List.Forall₂ Part.writes parts items) {isFirst : Bool} {inside : List Char}
    (listed : Listed isFirst items inside) (seen : List String) (rest : List Char) :
    readArrayForm fields isFirst (draft seen) (inside ++ ']' :: rest) =
      .ok (draft ((parts.map Part.name).reverse ++ seen), rest) := by
  induction fills generalizing items isFirst inside seen with
  | nil =>
    cases written with
    | nil =>
      cases listed with
      | nil isGap =>
        rw [readArrayForm, closeArray_gap isGap]
        rfl
  | @cons field part fields parts first more ih =>
    cases written with
    | cons value values =>
      cases listed with
      | @cons _ separator text following _ separates later =>
        have here := first.read (nofun : IsGap []) value seen (following ++ ']' :: rest)
        have last := ih values later (part.name :: seen)
        rw [List.nil_append] at here
        rw [readArrayForm, List.append_assoc, List.append_assoc,
          nextItem?_cons separates ((first.begins value).append _)]
        simp only [lift, bind, Except.bind, here]
        rw [last, List.map_cons, List.reverse_cons, List.append_assoc, List.singleton_append]

theorem exists_part {field : Field δ} (member : field ∈ fields) :
    ∃ part ∈ parts, Fills draft field part := by
  induction fills with
  | nil => cases member
  | cons first more ih =>
    rcases List.mem_cons.mp member with rfl | later
    · exact ⟨_, List.mem_cons_self, first⟩
    · obtain ⟨part, among, filled⟩ := ih later
      exact ⟨part, List.mem_cons_of_mem _ among, filled⟩

theorem map_name : fields.map Field.name = parts.map Part.name := by
  induction fills with
  | nil => rfl
  | cons first more ih => rw [List.map_cons, List.map_cons, first.name, ih]

theorem name_of_find? {name : String} {field : Field δ}
    (found : fields.find? (fun field => field.name == name) = some field) :
    ∃ part ∈ parts, Fills draft field part ∧ part.name = name := by
  obtain ⟨part, among, filled⟩ := exists_part fills (List.mem_of_find?_eq_some found)
  have same : field.name = name := by simpa using List.find?_some found
  exact ⟨part, among, filled, filled.name.symm.trans same⟩

theorem not_mem_of_find? {name : String}
    (missing : fields.find? (fun field => field.name == name) = none) :
    name ∉ parts.map Part.name := by
  rw [← map_name fills, List.mem_map]
  rintro ⟨field, member, same⟩
  exact absurd same (by simpa using List.find?_eq_none.mp missing field member)

theorem readObjectForm_member {name : String} {m : Member} (member : IsMember parts name m)
    {isFirst : Bool} {separator text : List Char} (separates : IsSeparator isFirst separator)
    (ends : Ends text) {seen : List String} (fresh : name ∈ parts.map Part.name → name ∉ seen)
    (fuel : Nat) :
    readObjectForm fields (fuel + 1) isFirst (draft seen) (separator ++ (m.text ++ text)) =
      readObjectForm fields fuel false (draft (noted parts seen name)) text := by
  obtain ⟨before, behind⟩ := member.spaced
  rw [readObjectForm, Member.text, List.append_assoc, nextField?_cons separates member.key]
  simp only [lift, bind, Except.bind, List.append_assoc, List.cons_append, readColon_gap before]
  cases found : fields.find? (fun field => field.name == name) with
  | some field =>
    obtain ⟨part, among, filled, rfl⟩ := name_of_find? fills found
    have known : part.name ∈ parts.map Part.name := List.mem_map_of_mem among
    have absent : field.isPresent (draft seen) = false := by simp [filled.present, fresh known]
    have read := filled.read behind (member.known part among rfl) seen text
    simp [absent, read, noted, known]
  | none =>
    have unknown := not_mem_of_find? fills found
    simp [skipValue_append behind (member.unknown unknown) ends, noted, unknown]

theorem readObjectForm_of_listed {members : List (String × Member)}
    (each : ∀ m ∈ members, IsMember parts m.1 m.2) {fuel : Nat} (enough : members.length < fuel)
    {isFirst : Bool} {inside : List Char}
    (listed : Listed isFirst (members.map fun m => m.2.text) inside) {seen : List String}
    (once : ((fieldNames parts members).reverse ++ seen).Nodup) (rest : List Char) :
    readObjectForm fields fuel isFirst (draft seen) (inside ++ '}' :: rest) =
      .ok (draft ((fieldNames parts members).reverse ++ seen), rest) := by
  induction members generalizing fuel isFirst inside seen with
  | nil =>
    obtain ⟨fuel, rfl⟩ := Nat.exists_eq_add_one_of_ne_zero (by omega : fuel ≠ 0)
    cases listed with
    | nil isGap =>
      rw [readObjectForm, nextField?_nil _ isGap, closeObject_gap isGap]
      rfl
  | cons m members ih =>
    obtain ⟨fuel, rfl⟩ := Nat.exists_eq_add_one_of_ne_zero (by omega : fuel ≠ 0)
    obtain ⟨name, m⟩ := m
    cases listed with
    | @cons _ separator _ following _ separates more =>
      rw [fieldNames_cons] at once ⊢
      have member := each (name, m) List.mem_cons_self
      have fresh : name ∈ parts.map Part.name → name ∉ seen := by
        intro known
        rw [noted, if_pos known] at once
        exact (List.nodup_cons.mp (List.nodup_append.mp once).2.1).1
      have later := ih (fun other among => each other (List.mem_cons_of_mem _ among))
        (by simpa using enough) more once
      rw [List.append_assoc, List.append_assoc, ← later]
      exact readObjectForm_member fills member separates (more.ends .object rest) fresh fuel

theorem firstLacking?_eq_none {seen : List String} (complete : Suffice parts seen) :
    firstLacking? fields (draft seen) = none := by
  rw [firstLacking?, List.find?_eq_none]
  rintro ⟨field, index⟩ member
  obtain ⟨part, among, filled⟩ := exists_part fills (List.fst_mem_of_mem_zipIdx member)
  suffices needed : field.isRequired = true → field.isPresent (draft seen) = true by
    simpa using needed
  intro required
  have present := (complete part among).resolve_right (filled.required required)
  exact (filled.present seen).trans (by simpa using present)

theorem readRecord_of_writes (kind : Kind) {gap text : List Char} (isGap : IsGap gap)
    (written : WritesRecord parts text) (rest : List Char) :
    ∃ seen, Suffice parts seen ∧
      readRecord kind fields (draft []) (gap ++ (text ++ rest)) = .ok (draft seen, rest) := by
  cases written with
  | array values listed =>
    have complete : Suffice parts (parts.map Part.name).reverse :=
      fun part among => .inl (List.mem_reverse.mpr (List.mem_map_of_mem among))
    have form := readArrayForm_of_listed fills values listed [] rest
    rw [List.append_nil] at form
    refine ⟨_, complete, ?_⟩
    simp only [List.cons_append, List.append_assoc, List.nil_append, readRecord]
    rw [skipSpace_gap_cons isGap (by decide)]
    simp only [form, bind, Except.bind, firstLacking?_eq_none fills complete]
    rfl
  | @object members inside holds listed =>
    have complete : Suffice parts (fieldNames parts members).reverse := by
      intro part among
      refine (holds.complete part among).imp_left fun held => ?_
      have known : part.name ∈ parts.map Part.name := List.mem_map_of_mem among
      rw [List.mem_reverse, fieldNames, List.mem_filter]
      exact ⟨held, by simpa using known⟩
    have enough : members.length < (inside ++ '}' :: rest).length + 1 := by
      simpa using listed.length_lt '}' rest
    have once : ((fieldNames parts members).reverse ++ []).Nodup := by
      rw [List.append_nil]
      exact List.nodup_reverse.mpr holds.once
    have form := readObjectForm_of_listed fills holds.each enough listed once rest
    rw [List.append_nil] at form
    refine ⟨_, complete, ?_⟩
    simp only [List.cons_append, List.append_assoc, List.nil_append, readRecord]
    rw [skipSpace_gap_cons isGap (by decide)]
    simp only [form, bind, Except.bind, firstLacking?_eq_none fills complete]
    rfl

end Record

theorem reads_record {α δ : Type} (kind : Kind) {fields : List (Field δ)}
    {reader : List Char → Except Fault (α × List Char)} {parts : α → List Part}
    {draft : α → List String → δ} (fills : ∀ a, List.Forall₂ (Fills (draft a)) fields (parts a))
    (finish : ∀ a seen text rest, Suffice (parts a) seen →
      readRecord kind fields (draft a []) text = .ok (draft a seen, rest) →
      reader text = .ok (a, rest)) :
    Reads reader fun a => WritesRecord (parts a) where
  begins := by
    rintro a text (⟨-, -⟩ | ⟨-, -⟩) <;> exact begins_cons (by decide) (by decide) _
  reads := by
    intro a gap text isGap written rest
    obtain ⟨seen, complete, read⟩ := readRecord_of_writes (fills a) kind isGap written rest
    exact finish a seen _ rest complete read

theorem fills_of_reads {α δ : Type} {reader : List Char → Except Fault (α × List Char)}
    {writes : α → List Char → Prop} (reads : Reads reader writes) {value : α}
    {draft : List String → δ} {field : Field δ} {optional : Prop}
    (present : ∀ seen, field.isPresent (draft seen) = seen.contains field.name)
    (required : field.isRequired = true → ¬ optional)
    (read : ∀ seen text rest, reader text = .ok (value, rest) →
      field.read (draft seen) text = .ok (draft (field.name :: seen), rest)) :
    Fills draft field ⟨field.name, writes value, optional⟩ where
  name := rfl
  present := present
  required := required
  begins := reads.begins
  read isGap written seen rest := read seen _ rest (reads.reads isGap written rest)

def held {α : Type} (seen : List String) (name : String) (value : α) : Option α :=
  if name ∈ seen then some value else none

section Held
variable {α : Type} (seen : List String) (name : String) (value : α)

@[simp] theorem isSome_held : (held seen name value).isSome = seen.contains name := by
  by_cases read : name ∈ seen <;> simp [held, read]

@[simp] theorem held_nil : held [] name value = none := by
  simp [held]

@[simp] theorem held_cons_self : held (name :: seen) name value = some value := by
  simp [held]

theorem held_cons_of_ne {other : String} (differ : name ≠ other) :
    held (other :: seen) name value = held seen name value := by
  simp [held, differ]

theorem held_getD {seen : List String} {name : String} {value default : α}
    (complete : name ∈ seen ∨ value = default) : (held seen name value).getD default = value := by
  by_cases read : name ∈ seen
  · simp [held, read]
  · simp [held, read, complete.resolve_left read]

end Held

/-! ## Parameters, signatures and entries -/

def parameterDraft (label : String) (seen : List String) : Option String :=
  held seen "label" label

theorem fills_parameter (label : String) :
    List.Forall₂ (Fills (parameterDraft label)) parameterFields (parameterParts label) := by
  refine .cons (fills_of_reads reads_text ?_ ?_ ?_) .nil
  all_goals simp +contextual [parameterDraft, bind, Except.bind, pure, Except.pure]

theorem reads_parameter : Reads readParameter WritesParameter := by
  refine reads_record .parameter fills_parameter fun value seen text rest complete read => ?_
  have label : "label" ∈ seen := by simpa [Suffice, parameterParts] using complete
  simp only [parameterDraft, held_nil] at read
  simp only [readParameter, read, bind, Except.bind, held_getD (.inl label)]
  rfl

def signatureDraft (s : Signature) (seen : List String) : SignatureDraft :=
  ⟨held seen "label" s.label, held seen "parameters" s.parameters⟩

theorem fills_signature (s : Signature) :
    List.Forall₂ (Fills (signatureDraft s)) signatureFields (signatureParts s) := by
  refine .cons (fills_of_reads reads_text ?_ ?_ ?_)
    (.cons (fills_of_reads (reads_list reads_parameter) ?_ ?_ ?_) .nil)
  all_goals
    simp +contextual [signatureDraft, held_cons_of_ne, bind, Except.bind, pure, Except.pure]

theorem reads_signature : Reads readSignature WritesSignature := by
  refine reads_record .signature fills_signature fun s seen text rest complete read => ?_
  obtain ⟨label, parameters⟩ : "label" ∈ seen ∧ ("parameters" ∈ seen ∨ s.parameters = []) := by
    simpa [Suffice, signatureParts] using complete
  simp only [signatureDraft, held_nil] at read
  simp only [readSignature, read, bind, Except.bind, SignatureDraft.finish,
    held_getD (.inl label), held_getD parameters]
  rfl

def entryDraft (b : Builtin) (seen : List String) : EntryDraft :=
  ⟨held seen "name" b.name, held seen "text" b.text, held seen "brief" b.brief,
    held seen "detail" b.detail, held seen "signature" b.signature⟩

theorem fills_entry (b : Builtin) :
    List.Forall₂ (Fills (entryDraft b)) entryFields (entryParts b) := by
  refine .cons (fills_of_reads reads_text ?_ ?_ ?_)
    (.cons (fills_of_reads reads_text ?_ ?_ ?_)
    (.cons (fills_of_reads reads_text ?_ ?_ ?_)
    (.cons (fills_of_reads reads_text ?_ ?_ ?_)
    (.cons (fills_of_reads reads_signature ?_ ?_ ?_) .nil))))
  all_goals simp +contextual [entryDraft, held_cons_of_ne, bind, Except.bind, pure, Except.pure]

theorem reads_entry : Reads readEntry WritesEntry := by
  refine reads_record .entry fills_entry fun b seen text rest complete read => ?_
  obtain ⟨name, shown, brief, detail, signature⟩ : "name" ∈ seen ∧ "text" ∈ seen ∧
      ("brief" ∈ seen ∨ b.brief = "") ∧ ("detail" ∈ seen ∨ b.detail = "") ∧
      "signature" ∈ seen := by
    simpa [Suffice, entryParts] using complete
  simp only [entryDraft, held_nil] at read
  simp only [readEntry, read, bind, Except.bind, EntryDraft.finish, held_getD (.inl name),
    held_getD (.inl shown), held_getD brief, held_getD detail, held_getD (.inl signature)]
  rfl

theorem decode_of_writes {builtins : List Builtin} {text : String}
    (written : WritesTable builtins text.toList) : decode text = .ok builtins := by
  obtain ⟨gap, list, gap', isGap, writes, isGap', same⟩ := written
  have read := (reads_list reads_entry).reads isGap writes gap'
  have nothing := skipSpace_gap isGap' []
  rw [List.append_nil] at nothing
  simp only [decode, same, read, bind, Except.bind, nothing]
  rfl

end NoxAssist.Builtin.Table

namespace NoxAssist.Registry
open Json Builtin.Table

/-- A table gives the registry of the builtins that it spells, or the fault of their names. -/
theorem ofTable_eq_ofList (builtins : List Builtin) (text : String)
    (written : WritesTable builtins text.toList) :
    ofTable text = (ofList builtins).mapError .naming ∧
      ∀ r, ofTable text = .ok r → r.toList = builtins := by
  simp only [ofTable, decode_of_writes written]
  cases built : ofList builtins with
  | ok r =>
    refine ⟨rfl, fun r' same => ?_⟩
    cases same
    exact (indexed_of_ofList built).2
  | error fault => exact ⟨rfl, nofun⟩

theorem ofTable_eq_ofList_escaped :
    let text :=
      "\t[\x7b\"x\":\"\\uD800\", \"signature\":[\"f\",[\x7b\"label\":\"a\"\x7d]],\"text\":\"\\/\",\"n\\u0061me\" :\"\\ud83d\\uDE00\"\x7d]\n"
    let builtins : List Builtin := [⟨"😀", "/", "", "", ⟨"f", ["a"]⟩⟩]
    WritesTable builtins text.toList ∧ ofTable text = (ofList builtins).mapError .naming ∧
      ∀ r, ofTable text = .ok r → r.toList = builtins := by
  intro text builtins
  have none : IsGap [] := nofun
  have blank : IsGap [' '] := by simp [IsGap]
  have first : IsSeparator true [] := .space none
  have comma : IsSeparator false [','] := .comma none none
  have foreign : IsValue "\"\\uD800\"".toList := .string ⟨_,
    .unit (.digits (by decide : IsHex 13 'D') (by decide : IsHex 8 '8') (by decide : IsHex 0 '0')
      (by decide : IsHex 0 '0')) .nil, rfl⟩
  have parameter : WritesParameter "a" "\x7b\"label\":\"a\"\x7d".toList := by
    have label : IsMember (parameterParts "a") "label"
        ⟨"\"label\"".toList, [], [], "\"a\"".toList⟩ :=
      ⟨writesString_self rfl, ⟨none, none⟩,
        List.forall_mem_singleton.mpr fun _ => writesString_self rfl,
        fun unknown => absurd List.mem_cons_self unknown⟩
    have holds : Holds (parameterParts "a")
        [("label", ⟨"\"label\"".toList, [], [], "\"a\"".toList⟩)] :=
      ⟨List.forall_mem_singleton.mpr label, by decide,
        List.forall_mem_singleton.mpr (.inl (by decide))⟩
    exact .object holds (.cons first (.nil none))
  have parameters : WritesList WritesParameter ["a"] "[\x7b\"label\":\"a\"\x7d]".toList :=
    ⟨_, _, .cons parameter .nil, .cons first (.nil none), rfl⟩
  have label : WritesString "f" "\"f\"".toList := writesString_self rfl
  have values : List.Forall₂ Part.writes (signatureParts ⟨"f", ["a"]⟩)
      ["\"f\"".toList, "[\x7b\"label\":\"a\"\x7d]".toList] :=
    .cons label (.cons parameters .nil)
  have signature : WritesSignature ⟨"f", ["a"]⟩ "[\"f\",[\x7b\"label\":\"a\"\x7d]]".toList :=
    .array values (.cons first (.cons comma (.nil none)))
  have shown : WritesString "/" "\"\\/\"".toList := ⟨_, .cons (.short (by decide)) .nil, rfl⟩
  have key : WritesString "name" "\"n\\u0061me\"".toList :=
    ⟨_, .cons (.plain (by decide)) (.cons (.unit (.digits (by decide : IsHex 0 '0')
      (by decide : IsHex 0 '0') (by decide : IsHex 6 '6') (by decide : IsHex 1 '1')))
      (writesBody_self rfl)), rfl⟩
  have name : WritesString "😀" "\"\\ud83d\\uDE00\"".toList :=
    ⟨_, .cons (.pair (by decide) (by decide) rfl
      (.digits (by decide : IsHex 13 'd') (by decide : IsHex 8 '8') (by decide : IsHex 3 '3')
        (by decide : IsHex 13 'd'))
      (.digits (by decide : IsHex 13 'D') (by decide : IsHex 14 'E') (by decide : IsHex 0 '0')
        (by decide : IsHex 0 '0'))) .nil, rfl⟩
  have holds : Holds (entryParts ⟨"😀", "/", "", "", ⟨"f", ["a"]⟩⟩)
      [("x", ⟨"\"x\"".toList, [], [], "\"\\uD800\"".toList⟩),
       ("signature", ⟨"\"signature\"".toList, [], [],
        "[\"f\",[\x7b\"label\":\"a\"\x7d]]".toList⟩),
       ("text", ⟨"\"text\"".toList, [], [], "\"\\/\"".toList⟩),
       ("name", ⟨"\"n\\u0061me\"".toList, [' '], [], "\"\\ud83d\\uDE00\"".toList⟩)] := by
    refine ⟨?_, by decide, by simp [Suffice, entryParts]⟩
    simp only [List.forall_mem_cons]
    exact ⟨⟨writesString_self rfl, ⟨none, none⟩, by simp [entryParts], fun _ => foreign⟩,
      ⟨writesString_self rfl, ⟨none, none⟩, by simpa [entryParts] using signature,
        by simp [entryParts]⟩,
      ⟨writesString_self rfl, ⟨none, none⟩, by simpa [entryParts] using shown,
        by simp [entryParts]⟩,
      ⟨key, ⟨blank, none⟩, by simpa [entryParts] using name, by simp [entryParts]⟩, nofun⟩
  have entry := WritesRecord.object holds
    (.cons first (.cons (.comma none blank) (.cons comma (.cons comma (.nil none)))))
  have written : WritesTable builtins text.toList :=
    ⟨['\t'], _, ['\n'], by simp [IsGap],
      ⟨_, _, .cons entry .nil, .cons first (.nil none), rfl⟩, by simp [IsGap], by decide⟩
  exact ⟨written, ofTable_eq_ofList builtins text written⟩

end NoxAssist.Registry
