import NoxAssist.Proofs.Buffer.Encoding
import NoxAssist.Server.Basic

namespace NoxAssist

inductive Revision where
  | replace (text : String)
  | edit (start stop : Nat) (text : String)
deriving DecidableEq, Repr

namespace Revision

def apply (copy : List Char) : Revision → List Char
  | .replace text => text.toList
  | .edit start stop text => copy.take start ++ text.toList ++ copy.drop stop

def encode (copy : List Char) : Revision → Change
  | .replace text => .replace text
  | .edit start stop text =>
    .edit ⟨Line.editorPosition (copy.take start), Line.editorPosition (copy.take stop)⟩ text

def Span (copy : List Char) (start stop : Nat) : Prop :=
  start ≤ stop ∧ stop ≤ copy.length ∧
    Line.Whole (copy.take start) (copy.drop start) ∧ Line.Whole (copy.take stop) (copy.drop stop)

def Valid (copy : List Char) : Revision → Prop
  | .replace _ => True
  | .edit start stop _ => Span copy start stop

/-- An edit ends behind no stray break, or right behind the first one. -/
def Plain (copy : List Char) : Revision → Prop
  | .replace _ => True
  | .edit _ stop _ => Line.Plain (copy.take stop)

def Along (holds : List Char → Revision → Prop) : List Char → List Revision → Prop
  | _, [] => True
  | copy, revision :: revisions =>
    holds copy revision ∧ Along holds (revision.apply copy) revisions

def encodeAll : List Char → List Revision → List Change
  | _, [] => []
  | copy, revision :: revisions =>
    revision.encode copy :: encodeAll (revision.apply copy) revisions

instance (copy : List Char) (start stop : Nat) : Decidable (Span copy start stop) :=
  inferInstanceAs (Decidable (_ ∧ _ ∧ _ ∧ _))

instance (copy : List Char) : DecidablePred (Valid copy)
  | .replace _ => isTrue trivial
  | .edit start stop _ => inferInstanceAs (Decidable (Span copy start stop))

instance (copy : List Char) : DecidablePred (Plain copy)
  | .replace _ => isTrue trivial
  | .edit _ stop _ => inferInstanceAs (Decidable (Line.Plain (copy.take stop)))

instance decidableAlong {holds : List Char → Revision → Prop}
    [∀ copy, DecidablePred (holds copy)] (copy : List Char) :
    (revisions : List Revision) → Decidable (Along holds copy revisions)
  | [] => isTrue trivial
  | revision :: revisions =>
    @instDecidableAnd _ _ _ (decidableAlong (revision.apply copy) revisions)

theorem along_append {holds : List Char → Revision → Prop} {copy : List Char}
    {revisions more : List Revision} :
    Along holds copy (revisions ++ more) ↔
      Along holds copy revisions ∧ Along holds (revisions.foldl apply copy) more := by
  induction revisions generalizing copy with
  | nil => simp [Along]
  | cons revision revisions ih => simp [Along, ih, and_assoc]

end Revision

namespace Buffer

theorem index_editorPosition (b : Buffer) (i : Nat) :
    b.index (Line.editorPosition (b.chars.take i)) =
      Line.landing (b.chars.take i) (b.chars.drop i) := by
  rw [index_eq_offset, Line.landing, List.take_append_drop]

theorem index_editorPosition_le {b : Buffer} {i : Nat}
    (whole : Line.Whole (b.chars.take i) (b.chars.drop i)) :
    b.index (Line.editorPosition (b.chars.take i)) ≤ i := by
  rw [index_editorPosition]
  exact Nat.le_trans (Line.landing_eq_length_iff whole).1 (List.length_take_le i _)

theorem index_editorPosition_eq_iff {b : Buffer} {i : Nat} (bound : i ≤ b.chars.length)
    (whole : Line.Whole (b.chars.take i) (b.chars.drop i)) :
    b.index (Line.editorPosition (b.chars.take i)) = i ↔ Line.Plain (b.chars.take i) := by
  have exactly := (Line.landing_eq_length_iff whole).2
  rwa [List.length_take, Nat.min_eq_left bound, ← index_editorPosition] at exactly

end Buffer

theorem Line.Plain.take {chars : List Char} {i j : Nat} (le : i ≤ j)
    (plain : Line.Plain (chars.take j)) : Line.Plain (chars.take i) := by
  intro c member
  refine plain c ?_
  rw [List.dropLast_eq_take, List.take_take] at member ⊢
  refine (List.take_subset_take_left _ ?_) member
  rw [List.length_take, List.length_take]
  omega

theorem chars_apply_encode {b : Buffer} {revision : Revision} (valid : revision.Valid b.chars)
    (plain : revision.Plain b.chars) :
    (b.apply (revision.encode b.chars)).chars = revision.apply b.chars := by
  cases revision with
  | replace text => exact Buffer.chars_ofChars text.toList
  | edit start stop text =>
    obtain ⟨le, bound, wholeStart, wholeStop⟩ := valid
    have first := (Buffer.index_editorPosition_eq_iff (Nat.le_trans le bound) wholeStart).mpr
      (Line.Plain.take le plain)
    have last := (Buffer.index_editorPosition_eq_iff bound wholeStop).mpr plain
    rw [Revision.encode, Buffer.apply, first, last, Buffer.chars_splice, Nat.min_eq_left le,
      Nat.max_eq_right le]
    rfl

theorem splice_places {chars : List Char} {m start n stop : Nat} (left : m ≤ start)
    (startLe : start ≤ chars.length) (nLe : n ≤ chars.length) (stopLe : stop ≤ chars.length)
    (same : ∀ text : String, chars.take m ++ text.toList ++ chars.drop n =
      chars.take start ++ text.toList ++ chars.drop stop) : m = start ∧ n = stop := by
  have here : ∀ c : Char, m < start → chars[m]? = some c := by
    intro c before
    have size : (chars.take m).length = m :=
      List.length_take_of_le (Nat.le_trans left startLe)
    have moved : (chars.take m ++ ([c] ++ chars.drop n))[m]? = some c := by
      rw [List.getElem?_append_right (Nat.le_of_eq size), size, Nat.sub_self]
      rfl
    have kept : (chars.take start ++ ([c] ++ chars.drop stop))[m]? = chars[m]? := by
      rw [List.getElem?_append_left (by rw [List.length_take]; omega),
        List.getElem?_take_of_lt before]
    have equal := same (String.ofList [c])
    rw [String.toList_ofList, List.append_assoc, List.append_assoc] at equal
    rw [← kept, ← equal, moved]
  have start_eq : m = start := by
    refine Nat.le_antisymm left (Nat.le_of_not_lt fun before => ?_)
    have other := (here 'a' before).symm.trans (here 'b' before)
    exact absurd (Option.some.inj other) (by decide)
  have size := congrArg List.length (same "")
  simp only [List.length_append, List.length_take, List.length_drop] at size
  exact ⟨start_eq, by omega⟩

theorem plain_of_chars_apply_encode {b : Buffer} {start stop : Nat}
    (valid : Revision.Span b.chars start stop)
    (same : ∀ text, (b.apply ((Revision.edit start stop text).encode b.chars)).chars =
      (Revision.edit start stop text).apply b.chars) :
    Line.Plain (b.chars.take stop) := by
  obtain ⟨le, bound, wholeStart, wholeStop⟩ := valid
  have first := Buffer.index_editorPosition_le wholeStart
  have last := Buffer.index_editorPosition_le wholeStop
  simp only [Revision.encode, Buffer.apply, Buffer.chars_splice, Revision.apply] at same
  have places := splice_places (by omega) (by omega) (by omega) bound same
  exact (Buffer.index_editorPosition_eq_iff bound wholeStop).mp (by omega)

structure Notification where
  version : Int
  revisions : List Revision
deriving DecidableEq, Repr

structure Mirror where
  server : Server
  copy : List Char

namespace Mirror

def start (server : Server) (uri : String) (version : Int) (text : String) : Mirror :=
  ⟨server.openDocument uri version text, text.toList⟩

def notify (uri : String) (mirror : Mirror) (notification : Notification) : Mirror :=
  ⟨mirror.server.changeDocument uri notification.version
      (Revision.encodeAll mirror.copy notification.revisions),
    notification.revisions.foldl Revision.apply mirror.copy⟩

def InStep (uri : String) (mirror : Mirror) : Prop :=
  (mirror.server.document? uri).map (·.content.text) = some (String.ofList mirror.copy)

theorem inStep_iff {uri : String} {mirror : Mirror} :
    InStep uri mirror ↔
      ∃ document, mirror.server.document? uri = some document ∧
        document.content.chars = mirror.copy := by
  simp only [InStep, Option.map_eq_some_iff, Buffer.text, String.ofList_inj]

theorem inStep_start (server : Server) (uri : String) (version : Int) (text : String) :
    InStep uri (start server uri version text) := by
  refine inStep_iff.mpr ⟨⟨version, Buffer.ofText text⟩, ?_, Buffer.chars_ofChars text.toList⟩
  exact Std.TreeMap.getElem?_insert_self

theorem inStep_notify_iff {uri : String} {mirror : Mirror} {document : Document}
    (held : mirror.server.document? uri = some document) (notification : Notification) :
    InStep uri (mirror.notify uri notification) ↔
      ((Revision.encodeAll mirror.copy notification.revisions).foldl Buffer.apply
        document.content).chars = notification.revisions.foldl Revision.apply mirror.copy := by
  have stored : (mirror.notify uri notification).server.document? uri =
      some (document.change notification.version
        (Revision.encodeAll mirror.copy notification.revisions)) := by
    rw [notify, Server.changeDocument, held]
    exact Std.TreeMap.getElem?_insert_self
  rw [inStep_iff, stored]
  simp only [Option.some.injEq, exists_eq_left']
  rfl

end Mirror

theorem chars_foldl_encodeAll {b : Buffer} {revisions : List Revision}
    (valid : Revision.Along Revision.Valid b.chars revisions)
    (plain : Revision.Along Revision.Plain b.chars revisions) :
    ((Revision.encodeAll b.chars revisions).foldl Buffer.apply b).chars =
      revisions.foldl Revision.apply b.chars := by
  induction revisions generalizing b with
  | nil => rfl
  | cons revision revisions ih =>
    have step := chars_apply_encode valid.1 plain.1
    rw [Revision.encodeAll, List.foldl_cons, List.foldl_cons, ← step]
    exact ih (step ▸ valid.2) (step ▸ plain.2)

namespace Mirror

theorem InStep.notify {uri : String} {mirror : Mirror} (inStep : InStep uri mirror)
    {notification : Notification}
    (valid : Revision.Along Revision.Valid mirror.copy notification.revisions)
    (plain : Revision.Along Revision.Plain mirror.copy notification.revisions) :
    InStep uri (mirror.notify uri notification) := by
  obtain ⟨document, held, same⟩ := inStep_iff.mp inStep
  rw [inStep_notify_iff held, ← same]
  exact chars_foldl_encodeAll (same ▸ valid) (same ▸ plain)

theorem InStep.notifyAll {uri : String} {mirror : Mirror} (inStep : InStep uri mirror)
    {notifications : List Notification}
    (valid : Revision.Along Revision.Valid mirror.copy (notifications.flatMap (·.revisions)))
    (plain : Revision.Along Revision.Plain mirror.copy (notifications.flatMap (·.revisions))) :
    InStep uri (notifications.foldl (Mirror.notify uri) mirror) := by
  induction notifications generalizing mirror with
  | nil => exact inStep
  | cons notification notifications ih =>
    rw [List.flatMap_cons, Revision.along_append] at valid plain
    exact ih (inStep.notify valid.1 plain.1) valid.2 plain.2

theorem InStep.plain_of_notify {uri : String} {mirror : Mirror} (inStep : InStep uri mirror)
    {start stop : Nat} {version : Int} (valid : Revision.Span mirror.copy start stop)
    (kept : ∀ text, InStep uri (mirror.notify uri ⟨version, [.edit start stop text]⟩)) :
    Line.Plain (mirror.copy.take stop) := by
  obtain ⟨document, held, same⟩ := inStep_iff.mp inStep
  rw [← same] at valid ⊢
  refine plain_of_chars_apply_encode valid fun text => ?_
  have after := (inStep_notify_iff held _).mp (kept text)
  rwa [← same] at after

/-- The server holds the copy after every notification while no edit ends further behind a stray
break, and an edit that does is not safe: some text makes the two differ. -/
theorem inStep_exactly_while_plain (uri : String) :
    (∀ (server : Server) (version : Int) (text : String) (notifications : List Notification),
      Revision.Along Revision.Valid text.toList (notifications.flatMap (·.revisions)) →
      Revision.Along Revision.Plain text.toList (notifications.flatMap (·.revisions)) →
      ∀ sent, sent <+: notifications →
        InStep uri (sent.foldl (Mirror.notify uri) (start server uri version text))) ∧
    ∀ (mirror : Mirror) (version : Int) (start stop : Nat), InStep uri mirror →
      Revision.Span mirror.copy start stop →
      ((∀ text, InStep uri (mirror.notify uri ⟨version, [.edit start stop text]⟩)) ↔
        Line.Plain (mirror.copy.take stop)) := by
  constructor
  · rintro server version text notifications valid plain sent ⟨later, rfl⟩
    rw [List.flatMap_append, Revision.along_append] at valid plain
    exact (inStep_start server uri version text).notifyAll valid.1 plain.1
  · intro mirror version start stop inStep span
    constructor
    · exact fun kept => inStep.plain_of_notify span kept
    · exact fun plain text => inStep.notify ⟨span, trivial⟩ ⟨plain, trivial⟩

theorem inStep_exactly_while_plain_feeds :
    let opened := "a\r\n😀b\rc"
    let first : Notification := ⟨2, [.edit 3 4 "x\x0c", .edit 5 5 "é"]⟩
    let second : Notification := ⟨3, [.replace "\x0b", .edit 1 1 "😀\n"]⟩
    let uri := "file:///script.ns"
    InStep uri (([first, second].foldl (Mirror.notify uri)
      (start (Server.ofRegistry Registry.empty) uri 1 opened))) :=
  (inStep_exactly_while_plain "file:///script.ns").1 (Server.ofRegistry Registry.empty) 1
    "a\r\n😀b\rc" [⟨2, [.edit 3 4 "x\x0c", .edit 5 5 "é"]⟩, ⟨3, [.replace "\x0b", .edit 1 1 "😀\n"]⟩]
    (by decide) (by decide) _ List.prefix_rfl

/-- Two characters behind a vertical tab an edit goes to the wrong place. -/
theorem not_inStep_behind_vertical_tab :
    Revision.Span "\x0bab".toList 2 2 ∧
      ¬ InStep "file:///a.ns" ((start (Server.ofRegistry Registry.empty) "file:///a.ns" 1
        "\x0bab").notify "file:///a.ns" ⟨2, [.edit 2 2 "X"]⟩) := by
  refine ⟨by decide, ?_⟩
  obtain ⟨document, held, same⟩ := inStep_iff.mp
    (inStep_start (Server.ofRegistry Registry.empty) "file:///a.ns" 1 "\x0bab")
  have opened : document = ⟨1, Buffer.ofText "\x0bab"⟩ :=
    Option.some.inj (held.symm.trans Std.TreeMap.getElem?_insert_self)
  rw [inStep_notify_iff held, opened]
  decide

end Mirror

end NoxAssist
