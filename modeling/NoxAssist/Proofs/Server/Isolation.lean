import Mathlib.Data.List.Basic
import NoxAssist.Proofs.Server.Message

/-!
# Documents do not interfere

Over a whole conversation a document is what its own notifications make of it. Questions, settings and
the notifications about other documents can be left out of a run (`document?_run_filter`), and of what
remains only the part from the last opening or closing on counts. In the same way the settings
do not depend on documents and questions (`settings_run_filter`).
-/

namespace NoxAssist

/-! ## Runs -/

/-- The client sends a message, or it changes the settings that it gives when asked and says so. -/
inductive Step where
  | message (request : Request)
  | configure (answer : Option Json)

def settingsChanged : Request :=
  ⟨none, "workspace/didChangeConfiguration", some (.ofFields [("settings", .null)])⟩

namespace Step

def request : Step → Request
  | .message request => request
  | .configure _ => settingsChanged

def answerAfter (before : Option Json) : Step → Option Json
  | .message _ => before
  | .configure answer => answer

end Step

namespace Session

def step (s : Session) (x : Step) : Session :=
  ({ s with answer := x.answerAfter s.answer } : Session).after x.request

def run (s : Session) (steps : List Step) : Session :=
  steps.foldl step s

def document? (s : Session) (uri : String) : Option Document :=
  s.server.document? uri

end Session

/-! ## Kinds of steps -/

inductive Topic where
  | conversation
  | settings
  | question
  | document
deriving DecidableEq

def Method.topic : Method → Topic
  | .didChangeConfiguration => .settings
  | .hover => .question
  | .completion => .question
  | .resolve => .question
  | .signatureHelp => .question
  | .didOpen => .document
  | .didChange => .document
  | .didClose => .document
  | _ => .conversation

namespace Step

def topic (x : Step) : Topic :=
  match Method.ofName? x.request.method with
  | some method => method.topic
  | none => .conversation

def uri? (x : Step) : Option String :=
  match Method.ofName? x.request.method with
  | some method =>
    if method.topic = .document then (x.request.params? method).map Method.uriOf else none
  | none => none

def concerns (uri : String) (x : Step) : Bool :=
  match x.topic with
  | .conversation => true
  | .document => x.uri? == some uri
  | .settings => false
  | .question => false

def concernsSettings (x : Step) : Bool :=
  match x.topic with
  | .conversation => true
  | .settings => true
  | .document => false
  | .question => false

def edit? (uri : String) (phase : Phase) (x : Step) : Option Edit :=
  (x.request.action phase).edit? uri

def phaseAfter (phase : Phase) (x : Step) : Phase :=
  (x.request.action phase).phaseAfter phase

end Step

def edits (uri : String) : Phase → List Step → List Edit
  | _, [] => []
  | phase, x :: steps => (x.edit? uri phase).toList ++ edits uri (x.phaseAfter phase) steps

def Edit.isReset : Edit → Bool
  | .opened _ _ => true
  | .changed _ _ => false
  | .closed => true

/-! ## What steps of each kind do -/

theorem Edit.apply_reset {edit : Edit} (reset : edit.isReset = true) (document : Option Document) :
    edit.apply document = edit.apply none := by
  cases edit with
  | changed version changes => cases reset
  | _ => rfl

theorem Request.running_of_revise {request : Request} {phase : Phase} {uri : String} {edit : Edit}
    (revises : request.action phase = .revise uri edit) : phase = .running := by
  have started : request.served .start ≠ .revise uri edit := by
    unfold served
    cases request.params? .start <;> simp [Method.action]
  unfold action at revises
  split at revises <;> first | rfl | cases revises | exact absurd revises started

namespace Step

variable {x : Step} {uri : String}

theorem action_of_named {method : Method} (named : Method.ofName? x.request.method = some method)
    (special : method.topic ≠ .conversation) (phase : Phase) :
    x.request.action phase =
      if phase = .running then x.request.served method else .nothing := by
  cases phase <;> cases method <;> simp_all [Request.action, Method.topic]

theorem action_special (special : x.topic ≠ .conversation) (phase : Phase) :
    x.request.action phase = .nothing ∨
      (x.topic = .settings ∧ x.request.action phase = .ask) ∨
      ∃ uri edit, x.topic = .document ∧ x.uri? = some uri ∧
        x.request.action phase = .revise uri edit := by
  cases named : Method.ofName? x.request.method with
  | none => simp [topic, named] at special
  | some method =>
    simp only [topic, uri?, named] at special ⊢
    rw [action_of_named named special, Request.served]
    cases phase with
    | running =>
      cases read : x.request.params? method with
      | none => exact .inl rfl
      | some params => cases method <;> simp_all [Method.topic, Method.action]
    | _ => exact .inl rfl

theorem idle_of_not_concerns (apart : x.concerns uri = false) (phase : Phase) :
    x.phaseAfter phase = phase ∧ x.edit? uri phase = none := by
  have special : x.topic ≠ .conversation := by
    intro general
    simp [concerns, general] at apart
  unfold phaseAfter edit?
  rcases action_special special phase with idle | ⟨-, asks⟩ | ⟨other, edit, about, named, revises⟩
  · simp [idle, Action.phaseAfter, Action.edit?]
  · simp [asks, Action.phaseAfter, Action.edit?]
  · have different : other ≠ uri := by simpa [concerns, about, named] using apart
    simp [revises, Action.phaseAfter, Action.edit?, different]

theorem phaseAfter_of_edit? {phase : Phase} {edit : Edit}
    (edited : x.edit? uri phase = some edit) : x.phaseAfter phase = .running := by
  unfold edit? at edited
  unfold phaseAfter
  cases action : x.request.action phase with
  | revise address other => exact Request.running_of_revise action
  | _ => simp [action, Action.edit?] at edited

theorem topic_of_uri? (named : x.uri? = some uri) : x.topic = .document := by
  unfold uri? at named
  unfold topic
  grind

theorem uri?_of_revise {edit : Edit} (about : x.topic = .document)
    (revises : x.request.action .running = .revise uri edit) : x.uri? = some uri := by
  have special : x.topic ≠ .conversation := by simp [about]
  rcases action_special special .running with idle | ⟨-, asks⟩ | ⟨other, _, -, named, same⟩
  · simp [idle] at revises
  · simp [asks] at revises
  · cases same.symm.trans revises
    exact named

theorem edit?_of_revise {edit : Edit}
    (revises : x.request.action .running = .revise uri edit) (other : String) :
    x.edit? other .running = if uri = other then some edit else none := by
  rw [edit?, revises, Action.edit?]

theorem topic_configure (answer : Option Json) : (configure answer).topic = .settings := rfl

theorem idle_of_not_concernsSettings (apart : x.concernsSettings = false) (phase : Phase)
    (answer : Option Json) (settings : Settings) :
    x.phaseAfter phase = phase ∧ x.answerAfter answer = answer ∧
      (x.request.action phase).settingsAfter (x.answerAfter answer) settings = settings := by
  have special : x.topic ≠ .conversation := by
    intro general
    simp [concernsSettings, general] at apart
  have same : x.answerAfter answer = answer := by
    cases x with
    | message request => rfl
    | configure other => simp [concernsSettings, topic_configure] at apart
  unfold phaseAfter
  rcases action_special special phase with idle | ⟨about, -⟩ | ⟨uri, edit, -, -, revises⟩
  · simp [idle, Action.phaseAfter, Action.settingsAfter, same]
  · simp [concernsSettings, about] at apart
  · simp [revises, Action.phaseAfter, Action.settingsAfter, same]

end Step

/-! ## Runs without idle steps -/

theorem foldl_filter_of_idle {α β : Type} {f : β → α → β} {keep : α → Bool}
    (idle : ∀ b a, keep a = false → f b a = b) (steps : List α) (b : β) :
    (steps.filter keep).foldl f b = steps.foldl f b := by
  induction steps generalizing b with
  | nil => rfl
  | cons a steps ih =>
    cases kept : keep a with
    | true => simp [kept, ih]
    | false => simp [kept, ih, idle b a kept]

theorem filter_swap {α : Type} {keep : α → Bool} {a b : α} (apart : keep a = false ∨ keep b = false)
    (front back : List α) :
    (front ++ b :: a :: back).filter keep = (front ++ a :: b :: back).filter keep := by
  rcases apart with out | out
  · simp [List.filter_cons, out]
  · simp [List.filter_cons, out]

namespace Session

theorem step_eq (s : Session) (x : Step) :
    s.step x = ⟨(x.request.action s.server.phase).perform (x.answerAfter s.answer) s.server,
      x.answerAfter s.answer⟩ :=
  after_eq _ _

theorem phase_step (s : Session) (x : Step) :
    (s.step x).server.phase = x.phaseAfter s.server.phase := by
  rw [step_eq]
  exact Action.phase_perform _ _ _

theorem document?_step (s : Session) (x : Step) (uri : String) :
    (s.step x).document? uri =
      (x.edit? uri s.server.phase).toList.foldl Edit.apply (s.document? uri) := by
  rw [step_eq]
  exact Action.document?_perform _ _ _ _

theorem settings_step (s : Session) (x : Step) :
    (s.step x).server.settings =
      (x.request.action s.server.phase).settingsAfter (x.answerAfter s.answer) s.server.settings := by
  rw [step_eq]
  exact Action.settings_perform _ _ _

theorem answer_step (s : Session) (x : Step) : (s.step x).answer = x.answerAfter s.answer := by
  rw [step_eq]

/-- A view of sessions whose course depends on nothing but itself is the same without the steps that
leave it alone. -/
theorem view_run_filter {β : Type} {view : Session → β} {follow : β → Step → β} {keep : Step → Bool}
    (follows : ∀ s x, view (s.step x) = follow (view s) x)
    (idle : ∀ b x, keep x = false → follow b x = b) (s : Session) (steps : List Step) :
    view (s.run (steps.filter keep)) = view (s.run steps) := by
  unfold run
  rw [← List.foldl_hom view fun s x => (follows s x).symm,
    ← List.foldl_hom view fun s x => (follows s x).symm]
  exact foldl_filter_of_idle idle steps (view s)

theorem document?_run_filter (s : Session) (steps : List Step) (uri : String) :
    (s.run (steps.filter (Step.concerns uri))).server.phase = (s.run steps).server.phase ∧
      (s.run (steps.filter (Step.concerns uri))).document? uri = (s.run steps).document? uri := by
  -- The phase is part of the view: it decides which edits take effect.
  let view : Session → Phase × Option Document := fun s => (s.server.phase, s.document? uri)
  let follow : Phase × Option Document → Step → Phase × Option Document := fun b x =>
    (x.phaseAfter b.1, (x.edit? uri b.1).toList.foldl Edit.apply b.2)
  have follows : ∀ s x, view (s.step x) = follow (view s) x := fun s x =>
    Prod.ext (phase_step s x) (document?_step s x uri)
  have idle : ∀ b x, Step.concerns uri x = false → follow b x = b := by
    intro b x apart
    obtain ⟨samePhase, noEdit⟩ := Step.idle_of_not_concerns apart b.1
    simp [follow, samePhase, noEdit]
  exact Prod.ext_iff.mp (view_run_filter follows idle s steps)

theorem settings_run_filter (s : Session) (steps : List Step) :
    (s.run (steps.filter Step.concernsSettings)).server.phase = (s.run steps).server.phase ∧
      (s.run (steps.filter Step.concernsSettings)).server.settings =
        (s.run steps).server.settings := by
  let view : Session → Phase × Option Json × Settings := fun s =>
    (s.server.phase, s.answer, s.server.settings)
  let follow : Phase × Option Json × Settings → Step → Phase × Option Json × Settings := fun b x =>
    (x.phaseAfter b.1, x.answerAfter b.2.1,
      (x.request.action b.1).settingsAfter (x.answerAfter b.2.1) b.2.2)
  have follows : ∀ s x, view (s.step x) = follow (view s) x := fun s x =>
    Prod.ext (phase_step s x) (Prod.ext (answer_step s x) (settings_step s x))
  have idle : ∀ b x, Step.concernsSettings x = false → follow b x = b := by
    intro b x apart
    obtain ⟨samePhase, sameAnswer, sameSettings⟩ :=
      Step.idle_of_not_concernsSettings apart b.1 b.2.1 b.2.2
    exact Prod.ext samePhase (Prod.ext sameAnswer sameSettings)
  have same := view_run_filter follows idle s steps
  exact ⟨congrArg (·.1) same, congrArg (·.2.2) same⟩

theorem run_documents (s : Session) {steps : List Step} (about : ∀ x ∈ steps, x.topic = .document) :
    (s.run steps).server.phase = s.server.phase ∧
      (s.run steps).server.settings = s.server.settings := by
  have none : steps.filter Step.concernsSettings = [] := by
    apply List.filter_eq_nil_iff.mpr
    intro x member
    simp [Step.concernsSettings, about x member]
  obtain ⟨phase, settings⟩ := settings_run_filter s steps
  rw [← phase, ← settings, none]
  exact ⟨rfl, rfl⟩

/-! ## The course of one document -/

theorem document?_run (s : Session) (steps : List Step) (uri : String) :
    (s.run steps).document? uri =
      (edits uri s.server.phase steps).foldl Edit.apply (s.document? uri) := by
  induction steps generalizing s with
  | nil => rfl
  | cons x steps ih =>
    have next : s.run (x :: steps) = (s.step x).run steps := rfl
    rw [next, ih, phase_step, document?_step, edits, List.foldl_append]

theorem run_append (s : Session) (front back : List Step) :
    s.run (front ++ back) = (s.run front).run back :=
  List.foldl_append

theorem document?_run_reset (s : Session) {x : Step} {uri : String} {edit : Edit}
    (edited : x.edit? uri s.server.phase = some edit) (reset : edit.isReset = true)
    (later : List Step) :
    (s.run (x :: later)).document? uri =
      (edits uri .running later).foldl Edit.apply (edit.apply none) := by
  rw [document?_run, edits, edited, Step.phaseAfter_of_edit? edited]
  rw [Option.toList_some, List.singleton_append, List.foldl_cons, edit.apply_reset reset]

/-! ## Steps that commute -/

theorem run_swap (s : Session) {a b : Step} {v w : String} (first : a.uri? = some v)
    (second : b.uri? = some w) (different : v ≠ w) (front back : List Step) :
    (s.run (front ++ b :: a :: back)).server.phase = (s.run (front ++ a :: b :: back)).server.phase ∧
      (s.run (front ++ b :: a :: back)).server.settings =
        (s.run (front ++ a :: b :: back)).server.settings ∧
      ∀ uri, (s.run (front ++ b :: a :: back)).document? uri =
        (s.run (front ++ a :: b :: back)).document? uri := by
  -- Whatever document is looked at, one of the two steps can be left out.
  have apart (uri : String) : a.concerns uri = false ∨ b.concerns uri = false := by
    simp only [Step.concerns, Step.topic_of_uri? first, Step.topic_of_uri? second, first, second]
    by_cases same : v = uri
    · exact .inr (by simpa [← same] using different.symm)
    · exact .inl (by simpa using same)
  have apartSettings : a.concernsSettings = false := by
    simp [Step.concernsSettings, Step.topic_of_uri? first]
  have alike (uri : String) := filter_swap (apart uri) front back
  refine ⟨?_, ?_, fun uri => ?_⟩
  · rw [← (s.document?_run_filter _ v).1, alike, (s.document?_run_filter _ v).1]
  · rw [← (s.settings_run_filter _).2, filter_swap (.inl apartSettings), (s.settings_run_filter _).2]
  · rw [← (s.document?_run_filter _ uri).2, alike, (s.document?_run_filter _ uri).2]

/-- After a run each document is what it is after the steps about it alone, which is what its edits
make of it from the last opening or closing on. The settings do not depend on documents, and steps
about different documents can change places. -/
theorem documents_do_not_interfere (s : Session) (steps : List Step) (uri : String) :
    (s.run steps).document? uri = (s.run (steps.filter (Step.concerns uri))).document? uri ∧
      (s.run steps).document? uri =
        (edits uri s.server.phase steps).foldl Edit.apply (s.document? uri) ∧
      (∀ earlier x later edit, steps = earlier ++ x :: later →
        x.edit? uri (s.run earlier).server.phase = some edit → edit.isReset = true →
        (s.run steps).document? uri =
          (edits uri .running later).foldl Edit.apply (edit.apply none)) ∧
      (s.run steps).server.settings =
        (s.run (steps.filter Step.concernsSettings)).server.settings ∧
      (∀ earlier a b later v w, steps = earlier ++ a :: b :: later →
        a.uri? = some v → b.uri? = some w → v ≠ w →
        (s.run (earlier ++ b :: a :: later)).server.phase = (s.run steps).server.phase ∧
          (s.run (earlier ++ b :: a :: later)).server.settings = (s.run steps).server.settings ∧
          ∀ other, (s.run (earlier ++ b :: a :: later)).document? other =
            (s.run steps).document? other) := by
  refine ⟨(document?_run_filter s steps uri).2.symm, document?_run s steps uri, ?_,
    (settings_run_filter s steps).2.symm, ?_⟩
  · rintro earlier x later edit rfl edited reset
    rw [run_append]
    exact document?_run_reset _ edited reset later
  · rintro earlier a b later v w rfl first second different
    exact run_swap s first second different earlier later

theorem documents_do_not_interfere_closed :
    let s : Session := ⟨{ Server.ofRegistry Registry.empty with phase := .running }, none⟩
    let first := Step.message (.opening "file:///a" 1 "int old")
    let other := Step.message (.opening "file:///b" 1 "int x")
    let close := Step.message (.closing "file:///a")
    let change := Step.message (.changing "file:///a" 2 [.edit ⟨⟨0, 0⟩, ⟨0, 0⟩⟩ "int new"])
    ((s.run [first, other, close, change]).document? "file:///a").map
        (fun document => (document.version, document.content.text)) = some (2, "int new") ∧
      (s.run [first, close, other, change]).document? "file:///b" =
        (s.run [first, other, close, change]).document? "file:///b" := by
  intro s first other close change
  have normalA : Uri.normalize "file:///a" = .ok "file:///a" := by decide +kernel
  have normalB : Uri.normalize "file:///b" = .ok "file:///b" := by decide +kernel
  have opens : other.request.action .running = .revise "file:///b" (.opened 1 "int x") :=
    Request.action_opening normalB (by decide) _
  have closes : close.request.action .running = .revise "file:///a" .closed :=
    Request.action_closing normalA
  have changes : change.request.action .running =
      .revise "file:///a" (.changed 2 [.edit ⟨⟨0, 0⟩, ⟨0, 0⟩⟩ "int new"]) :=
    Request.action_changing normalA (by decide) (by simp [Change.Fits, Position.Fits])
  have phase : (s.run [first, other]).server.phase = .running :=
    (s.run_documents (by simp [first, other]; exact ⟨rfl, rfl⟩)).1
  obtain ⟨-, -, reset, -, commute⟩ :=
    documents_do_not_interfere s [first, other, close, change] "file:///a"
  constructor
  · have closed : close.edit? "file:///a" (s.run [first, other]).server.phase = some .closed := by
      rw [phase]
      exact Step.edit?_of_revise closes "file:///a"
    rw [reset [first, other] close [change] .closed rfl closed rfl, edits,
      Step.edit?_of_revise changes]
    decide +kernel
  · exact (commute [first] other close [change] "file:///b" "file:///a" rfl
      (Step.uri?_of_revise rfl opens) (Step.uri?_of_revise rfl closes) (by decide)).2.2 _

end Session

end NoxAssist
