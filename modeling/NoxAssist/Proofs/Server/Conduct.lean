import NoxAssist.Server.Conversation

/-!
# What a message does

A message passes many checks before it changes anything. What comes out is one of four actions, and
which one depends on the message and the phase of the conversation only (`Session.after_eq`): the
server enters a phase, asks for settings, revises one document or does nothing. What holds of
conversations is proved from the actions.
-/

namespace NoxAssist

inductive Edit where
  | opened (version : Int) (text : String)
  | changed (version : Int) (changes : List Change)
  | closed
deriving DecidableEq

namespace Edit

def apply (document : Option Document) : Edit → Option Document
  | .opened version text => some ⟨version, Buffer.ofText text⟩
  | .changed version changes => some ((document.getD Document.empty).change version changes)
  | .closed => none

def perform (s : Server) (uri : String) : Edit → Server
  | .opened version text => s.openDocument uri version text
  | .changed version changes => s.changeDocument uri version changes
  | .closed => s.closeDocument uri

end Edit

inductive Action where
  | nothing
  | enter (phase : Phase)
  | ask
  | revise (uri : String) (edit : Edit)

def Action.perform (answer : Option Json) (s : Server) : Action → Server
  | .nothing => s
  | .enter phase => { s with phase }
  | .ask =>
    { s with
      asked := s.asked + 1
      awaiting := s.awaiting.filter (· != s.asked)
      settings := Server.applyAnswer s.settings answer }
  | .revise uri edit => edit.perform s uri

def Method.action (params : Json) : Method → Action
  | .start => .enter .running
  | .ready => .ask
  | .didChangeConfiguration => .ask
  | .didOpen =>
    let document := partField "textDocument" params
    .revise (uriOf params) (.opened (intField "version" document) (textField "text" document))
  | .didChange =>
    let document := partField "textDocument" params
    .revise (uriOf params) (.changed (intField "version" document) (changesOf params))
  | .didClose => .revise (uriOf params) .closed
  | _ => .nothing

namespace Request

def params? (request : Request) (method : Method) : Option Json :=
  if method.isRequest = request.id.isSome then
    (Server.readParams method request.params).toOption
  else
    none

def served (request : Request) (method : Method) : Action :=
  match request.params? method with
  | some params => method.action params
  | none => .nothing

def action (request : Request) (phase : Phase) : Action :=
  match phase, Method.ofName? request.method with
  | .exited, _ => .nothing
  | _, none => .nothing
  | _, some .exit => .enter .exited
  | .waiting, some .start => request.served .start
  | .running, some .start => .nothing
  | .running, some .stop => .enter .stopped
  | .running, some method => request.served method
  | _, _ => .nothing

end Request

namespace Server

def answered (answer : Option Json) (result : Server × List Outgoing) : Server :=
  result.2.foldl
    (fun server message =>
      match message with
      | .ask number _ _ => server.receiveReply number answer
      | _ => server)
    result.1

@[simp] theorem answered_nil (answer : Option Json) (s : Server) : answered answer (s, []) = s := rfl

@[simp] theorem answered_refuse (answer : Option Json) (s : Server) (id : Option Json)
    (reason : Refusal) : answered answer (s, refuse id reason) = s := by
  cases id <;> rfl

@[simp] theorem answered_reply (answer : Option Json) (s : Server) (id : Option Json)
    (value : Json) : answered answer (s, reply id value) = s := by
  cases id <;> rfl

@[simp] theorem answered_askSettings (answer : Option Json) (s : Server) :
    answered answer s.askSettings = Action.ask.perform answer s := by
  simp [answered, askSettings, receiveReply, Action.perform]

theorem answered_perform (answer : Option Json) (s : Server) (id : Option Json) (params : Json)
    (method : Method) :
    answered answer (s.perform id params method) = (method.action params).perform answer s := by
  cases method with
  | start => exact answered_reply answer _ id capabilities
  | ready => exact answered_askSettings answer s
  | didChangeConfiguration => exact answered_askSettings answer s
  | unsupported isRequest shape =>
    cases isRequest with
    | true => exact answered_refuse answer s id _
    | false => rfl
  | _ => simp [perform, Method.action, Action.perform, Edit.perform]

theorem answered_serve (answer : Option Json) (s : Server) (request : Request) (method : Method) :
    answered answer (s.serve request method) = (request.served method).perform answer s := by
  have refused : Action.nothing.perform answer s = s := rfl
  unfold serve carryOut Request.served Request.params?
  cases kind : method.isRequest <;> cases sent : request.id <;>
    cases read : readParams method request.params <;>
    simp [answered_perform, refused, Except.toOption]

theorem served_idle (request : Request) {method : Method}
    (idle : ∀ params, method.action params = .nothing) : request.served method = .nothing := by
  unfold Request.served
  cases request.params? method with
  | none => rfl
  | some params => exact idle params

theorem answered_dispatch (answer : Option Json) (s : Server) (request : Request) (method : Method)
    (named : Method.ofName? request.method = some method) (live : s.phase ≠ .exited) :
    answered answer (s.dispatch request method) = (request.action s.phase).perform answer s := by
  have cancelled : request.served .cancel = .nothing := served_idle request fun _ => rfl
  have stopped : request.served .stop = .nothing := served_idle request fun _ => rfl
  cases phase : s.phase with
  | exited => exact absurd phase live
  | waiting =>
    cases method <;>
      simp [dispatch, Request.action, named, phase, closedReason?, answered_serve, Action.perform]
  | running =>
    cases method <;>
      simp [dispatch, Request.action, named, phase, closedReason?, answered_serve, cancelled, stopped,
        Action.perform]
  | stopped =>
    cases method <;>
      simp [dispatch, Request.action, named, phase, closedReason?, Action.perform]

theorem action_unnamed {request : Request} (unnamed : Method.ofName? request.method = none)
    (phase : Phase) : request.action phase = .nothing := by
  cases phase <;> simp [Request.action, unnamed]

theorem receive_eq (s : Server) (request : Request) (live : s.phase ≠ .exited) (answer : Option Json) :
    ∃ result, s.receive request = some result ∧
      answered answer result = (request.action s.phase).perform answer s := by
  unfold receive
  rw [if_neg live]
  cases named : Method.ofName? request.method with
  | some method => exact ⟨_, rfl, answered_dispatch answer s request method named live⟩
  | none =>
    rw [action_unnamed named]
    by_cases ignorable : isIgnorable request.method = true
    · exact ⟨(s, []), by simp [ignorable], rfl⟩
    · exact ⟨_, by simp [ignorable]; rfl, answered_refuse answer s request.id _⟩

end Server

namespace Session

/-- The session after a message of the client; one that has ended stays as it is. -/
def after (s : Session) (request : Request) : Session :=
  ((s.send request).map (·.1)).getD s

theorem after_eq (s : Session) (request : Request) :
    s.after request =
      { s with server := (request.action s.server.phase).perform s.answer s.server } := by
  by_cases exited : s.server.phase = .exited
  · have refused : s.server.receive request = none := by simp [Server.receive, exited]
    simp [after, send, refused, exited, Request.action, Action.perform]
  · obtain ⟨result, received, performed⟩ := s.server.receive_eq request exited s.answer
    rw [← performed, after, send, received]
    rfl

end Session

theorem Server.document?_insert (s : Server) (uri other : String) (document : Document) :
    ({ s with documents := s.documents.insert uri document } : Server).document? other =
      if uri = other then some document else s.document? other := by
  simp only [Server.document?, Std.TreeMap.getElem?_insert, Std.LawfulEqCmp.compare_eq_iff_eq]

theorem Server.document?_erase (s : Server) (uri other : String) :
    ({ s with documents := s.documents.erase uri } : Server).document? other =
      if uri = other then none else s.document? other := by
  simp only [Server.document?, Std.TreeMap.getElem?_erase, Std.LawfulEqCmp.compare_eq_iff_eq]

theorem Edit.document?_perform (edit : Edit) (s : Server) (uri other : String) :
    (edit.perform s uri).document? other =
      if uri = other then edit.apply (s.document? other) else s.document? other := by
  cases edit with
  | opened version text => exact s.document?_insert uri other _
  | closed => exact s.document?_erase uri other
  | changed version changes =>
    refine (s.document?_insert uri other _).trans ?_
    by_cases same : uri = other
    · subst same
      rfl
    · simp [same]

namespace Action

def phaseAfter (before : Phase) : Action → Phase
  | .enter phase => phase
  | _ => before

def settingsAfter (answer : Option Json) (before : Settings) : Action → Settings
  | .ask => Server.applyAnswer before answer
  | _ => before

def edit? (uri : String) : Action → Option Edit
  | .revise address edit => if address = uri then some edit else none
  | _ => none

theorem phase_perform (action : Action) (answer : Option Json) (s : Server) :
    (action.perform answer s).phase = action.phaseAfter s.phase := by
  cases action with
  | revise uri edit => cases edit <;> rfl
  | _ => rfl

theorem settings_perform (action : Action) (answer : Option Json) (s : Server) :
    (action.perform answer s).settings = action.settingsAfter answer s.settings := by
  cases action with
  | revise uri edit => cases edit <;> rfl
  | _ => rfl

theorem document?_perform (action : Action) (answer : Option Json) (s : Server) (uri : String) :
    (action.perform answer s).document? uri =
      (action.edit? uri).toList.foldl Edit.apply (s.document? uri) := by
  cases action with
  | revise address edit =>
    rw [perform, edit.document?_perform, edit?]
    by_cases same : address = uri
    · simp [same]
    · simp [same]
  | _ => rfl

end Action

end NoxAssist
