import BusTraits.Proofs.Command.Converter

/-!
# A converter in use

A converter can be used for longer than one run of the command: its steps can be taken in any order
and any number of times, its settings can be changed between them, and so can the files and what is
to come from standard input. A `Session` is a converter with what is around it, and an `Action` is
one of these changes. Standard input can be read once; afterwards it is empty until it is changed.

Whatever is done, a converter holds the interfaces of the document that it read last without
trouble, and the remarks on the code that it generated last, or none if that failed. What an action
reads (`read?`) or remarks (`remarked?`) can be told from the session before it, so that `history`
lists it for a sequence of actions; `after_eq_last` says that what is held is the last of it.

* `perform_interfaces`, `perform_remarks`: what one action does to the interfaces and the remarks;
* `generating_perform_generate`: nothing is different when code is generated again;
* **`Session.after_start`**: the state of a new converter after any number of actions.
-/

namespace BusTraits.Command

/-! ## Sessions -/

/-- A converter, the files, what is to come from standard input, and the lines that the user has
been shown. -/
structure Session where
  converter : Converter
  folder : Folder
  standardInput : ByteArray
  lines : List String := []

/-- What can be done in a session. -/
inductive Action where
  | parse
  | generate
  | report
  | setInput (path : Option String)
  | setServer (server : Bool)
  | setVerbose (verbose : Bool)
  | changeFolder (folder : Folder)
  | changeStandardInput (bytes : ByteArray)

namespace Session

/-- A session with a new converter. -/
def start (input : Option String) (server verbose : Bool) (folder : Folder)
    (standardInput : ByteArray) : Session :=
  { converter := { input, server, verbose }, folder, standardInput }

variable (s : Session)

/-- The text of the document as it is now. -/
def text : Except FileError String := s.converter.fetch s.folder s.standardInput

/-- What comes of a parse. -/
def parsing : Converter.Step (Except FileError Bool) := s.converter.parse s.text

/-- What comes of generating code. -/
def generating : Converter.Step (Option String) := s.converter.generate

/-- The session after an action. -/
def perform (s : Session) : Action → Session
  | .parse => { s with
      converter := s.parsing.converter
      standardInput := if s.converter.inputFile?.isSome then s.standardInput else .empty
      lines := s.lines ++ s.parsing.lines }
  | .generate => { s with
      converter := s.generating.converter
      lines := s.lines ++ s.generating.lines }
  | .report => { s with lines := s.lines ++ s.converter.report }
  | .setInput path => { s with converter := { s.converter with input := path } }
  | .setServer server => { s with converter := { s.converter with server } }
  | .setVerbose verbose => { s with converter := { s.converter with verbose } }
  | .changeFolder folder => { s with folder }
  | .changeStandardInput bytes => { s with standardInput := bytes }

/-- The session after several actions. -/
def after (actions : List Action) : Session := actions.foldl perform s

/-! ## What actions read and remark -/

/-- The interfaces that an action reads, if it is a parse that succeeds. -/
def read? : Action → Option (List Interface)
  | .parse => loaded? s.text
  | _ => none

/-- The remarks of an action, if it generates code. There are none if it fails. -/
def remarked? : Action → Option (List Signature.Remark)
  | .generate =>
    some (if s.generating.result.isSome then s.converter.style.remarksOn s.converter.interfaces
      else [])
  | _ => none

/-- What is seen of actions one after another, where there is something to be seen. -/
def history {α : Type} (view : Session → Action → Option α) : Session → List Action → List α
  | _, [] => []
  | s, action :: rest => (view s action).toList ++ history view (s.perform action) rest

/-! ## One action -/

theorem perform_interfaces (action : Action) :
    (s.perform action).converter.interfaces =
      (s.read? action).getD s.converter.interfaces := by
  cases action with
  | parse =>
    show s.parsing.converter.interfaces = (loaded? s.text).getD _
    rw [parsing, (s.converter.parse_spec s.text).2]
  | generate =>
    show s.generating.converter.interfaces = s.converter.interfaces
    rw [generating, s.converter.generate_converter]
  | _ => rfl

theorem perform_remarks (action : Action) :
    (s.perform action).converter.remarks = (s.remarked? action).getD s.converter.remarks := by
  cases action with
  | parse =>
    show s.parsing.converter.remarks = s.converter.remarks
    rw [parsing, (s.converter.parse_spec s.text).2]
  | generate =>
    show s.generating.converter.remarks = if s.generating.result.isSome then _ else _
    rw [generating, s.converter.generate_converter,
      s.converter.generate_result s.converter.verbose [], Style.generateAllInto_calledWith]
    cases hall : (s.converter.style.generateAll s.converter.interfaces s.converter.verbose).1 with
    | error fault => rfl
    | ok source => exact s.converter.style.generateAll_remarks hall
  | _ => rfl

/-- Generating leaves everything that code is generated from. -/
theorem generating_perform_generate :
    (s.perform .generate).generating.result = s.generating.result ∧
      ((s.perform .generate).perform .generate).converter = (s.perform .generate).converter := by
  show s.converter.generate.converter.generate.result = s.converter.generate.result ∧
    s.converter.generate.converter.generate.converter = s.converter.generate.converter
  simp only [Converter.generate_result _ false [], Converter.generate_converter]
  exact ⟨rfl, rfl⟩

/-! ## Any number of actions -/

theorem after_cons (action : Action) (rest : List Action) :
    s.after (action :: rest) = (s.perform action).after rest := rfl

/-- What is replaced by whatever is seen of an action, and by nothing else, is in the end what was
seen last. -/
theorem after_eq_last {α : Type} {view : Session → Action → Option α} (held : Session → α)
    (hstep : ∀ s action, held (s.perform action) = (view s action).getD (held s))
    (actions : List Action) :
    held (s.after actions) = (history view s actions).getLastD (held s) := by
  induction actions generalizing s with
  | nil => rfl
  | cons action rest ih =>
    rw [after_cons, ih, hstep, history]
    cases view s action with
    | none => rfl
    | some v => exact List.getLastD_cons.symm

/-- **A new converter after any number of actions** holds the interfaces of the last parse that
succeeded, and the remarks on those that it held when it generated code last, or none if that
failed. A parse succeeds exactly if the document can be read and gives interfaces, and the code
that is generated is that for the interfaces held. Only a parse changes the interfaces and only
generating code changes the remarks, and generating code again gives the same code and the same
remarks. -/
theorem after_start (input : Option String) (server verbose : Bool) (folder : Folder)
    (standardInput : ByteArray) (actions : List Action) :
    let first := start input server verbose folder standardInput
    let s := first.after actions
    s.converter.interfaces = (history read? first actions).getLastD [] ∧
    s.converter.remarks = (history remarked? first actions).getLastD [] ∧
    (s.parsing.result = .ok true ↔ ∃ interfaces, s.read? .parse = some interfaces) ∧
    (∀ verbose messages, s.generating.result =
      ((s.converter.style.generateAllInto s.converter.interfaces verbose).calledWith
        messages).1.toOption) ∧
    (∀ action, action ≠ .parse →
      (s.perform action).converter.interfaces = s.converter.interfaces) ∧
    (∀ action, action ≠ .generate →
      (s.perform action).converter.remarks = s.converter.remarks) ∧
    (s.perform .generate).generating.result = s.generating.result ∧
    ((s.perform .generate).perform .generate).converter.remarks =
      (s.perform .generate).converter.remarks := by
  intro first s
  have hinterfaces := first.after_eq_last (·.converter.interfaces) perform_interfaces actions
  have hremarks := first.after_eq_last (·.converter.remarks) perform_remarks actions
  obtain ⟨hresult, hagain⟩ := s.generating_perform_generate
  refine ⟨hinterfaces, hremarks, ?_, s.converter.generate_result, ?_, ?_, hresult,
    congrArg Converter.remarks hagain⟩
  · exact (s.converter.parse_spec s.text).1.trans Option.isSome_iff_exists
  · intro action haction
    rw [perform_interfaces]
    cases action with
    | parse => exact absurd rfl haction
    | _ => rfl
  · intro action haction
    rw [perform_remarks]
    cases action with
    | generate => exact absurd rfl haction
    | _ => rfl

/-- A folder with one document. -/
def shelf : Folder := { files := [(["torn.xml"], tornDocument)] }

/-- Standard input cannot be parsed twice, but what was read stays, and the code that is generated
from it twice has one remark. When the file has been read, no code can be generated, which leaves no
remark. -/
theorem gauge_torn_after_start :
    let first := start none false true shelf gaugeDocument
    let s := first.after [.parse, .generate, .parse, .setServer true, .generate]
    let t := first.after [.parse, .generate, .setInput "torn.xml", .parse, .generate]
    s.converter.interfaces = [Style.gauge] ∧
    s.converter.remarks = [⟨"?", .unknownCode '?' 1⟩] ∧
    s.parsing.result = .ok false ∧
    (s.perform .generate).converter.interfaces = [Style.gauge] ∧
    (s.perform .report).converter.remarks = [⟨"?", .unknownCode '?' 1⟩] ∧
    t.converter.interfaces = [Style.torn] ∧
    t.converter.remarks = [] := by
  dsimp only
  obtain ⟨hread, hremarked, -, -, hgenerate, hreport, -⟩ :=
    after_start none false true shelf gaugeDocument
      [.parse, .generate, .parse, .setServer true, .generate]
  obtain ⟨hread', hremarked', -⟩ :=
    after_start none false true shelf gaugeDocument
      [.parse, .generate, .setInput "torn.xml", .parse, .generate]
  rw [hgenerate .generate nofun, hreport .report nofun, hread, hremarked, hread', hremarked']
  decide +kernel

end Session

end BusTraits.Command
