import BusTraits.Proofs.Command.Delivery

/-!
# How a run ends

A run that prints its code ends well, or with status 1 after a line that tells what is wrong with
the document. It takes no text for that, only bytes: of all that can go wrong with the input, the
one thing that no handler is there for is a document that is not read as text. `Invocation.Trips`
says when that is, and then the run breaks off without a word.

* `decode_error_iff`, `read_trouble_iff`, `document_trouble_iff`: which documents are not read;
* `parse_outcomes`, `generate_outcomes`, `convert_outcomes`: a step succeeds, or its last line is
  about an error, or the document was not read;
* **`run_ending`**: how a run ends, and when it breaks off.
-/

namespace BusTraits.Command

/-! ## Documents that are not read -/

/-- Whether an error is none of those that opening a file can bring up. -/
def FileError.isTrouble : FileError → Bool
  | system .. => false
  | nullCharacter => true
  | notText => true

/-- What is wrong with the bytes of a document: they are not UTF-8, wherever they come from, or
their path is none. -/
inductive Invocation.Trips (i : Invocation) (o : Options) : Prop
  | standardInput (hinput : effective i.environment.input o.input = none)
    (hbytes : ¬i.standardInput.IsValidUTF8)
  | path {path : String} (hinput : effective i.environment.input o.input = some path)
    (hpath : '\x00' ∈ path.toList)
  | file {path : String} {bytes : ByteArray}
    (hinput : effective i.environment.input o.input = some path) (hpath : '\x00' ∉ path.toList)
    (hfile : i.folder.bytesAt path = .ok bytes) (hbytes : ¬bytes.IsValidUTF8)

namespace Folder

/-- Bytes are decoded, or they are not UTF-8. -/
theorem decode_error_iff {bytes : ByteArray} {e : FileError} :
    decode bytes = .error e ↔ e = .notText ∧ ¬bytes.IsValidUTF8 := by
  unfold decode String.fromUTF8?
  by_cases hvalid : bytes.IsValidUTF8
  · simp [hvalid]
  · simp [hvalid, eq_comm]

theorem read_trouble_iff {f : Folder} {path : String} :
    (∃ e, f.read path = .error e ∧ e.isTrouble = true) ↔ '\x00' ∈ path.toList ∨
      '\x00' ∉ path.toList ∧ ∃ bytes, f.bytesAt path = .ok bytes ∧ ¬bytes.IsValidUTF8 := by
  unfold read
  by_cases hpath : '\x00' ∈ path.toList
  · simp [hpath, FileError.isTrouble]
  · cases f.bytesAt path with
    | error cause => simp [hpath, FileError.isTrouble]
    | ok bytes => simp [hpath, decode_error_iff, FileError.isTrouble]

end Folder

theorem Invocation.document_trouble_iff {i : Invocation} {o : Options} :
    (∃ e, i.document o = .error e ∧ e.isTrouble = true) ↔ i.Trips o := by
  unfold document
  cases hinput : effective i.environment.input o.input with
  | none =>
    simp only [Folder.decode_error_iff]
    constructor
    · rintro ⟨e, ⟨-, hbytes⟩, -⟩
      exact .standardInput hinput hbytes
    · rintro (⟨-, hbytes⟩ | ⟨hpath, -⟩ | ⟨hpath, -⟩)
      · exact ⟨.notText, ⟨rfl, hbytes⟩, rfl⟩
      · cases hinput.symm.trans hpath
      · cases hinput.symm.trans hpath
  | some path =>
    rw [Folder.read_trouble_iff]
    constructor
    · rintro (hpath | ⟨hpath, bytes, hfile, hbytes⟩)
      · exact .path hinput hpath
      · exact .file hinput hpath hfile hbytes
    · rintro (⟨hnone, -⟩ | ⟨hsome, hpath⟩ | ⟨hsome, hpath, hfile, hbytes⟩)
      · cases hinput.symm.trans hnone
      · cases hinput.symm.trans hsome
        exact Or.inl hpath
      · cases hinput.symm.trans hsome
        exact Or.inr ⟨hpath, _, hfile, hbytes⟩

/-! ## What a step tells -/

/-- The last of some lines is about an error. -/
def TellsError (lines : List String) : Prop :=
  ∃ before message, lines = before ++ ["Error: " ++ message]

theorem TellsError.append {lines : List String} (h : TellsError lines) (before : List String) :
    TellsError (before ++ lines) := by
  obtain ⟨early, message, rfl⟩ := h
  exact ⟨before ++ early, message, (List.append_assoc ..).symm⟩

namespace Converter

variable (c : Converter)

theorem parse_of_trouble {e : FileError} (h : e.isTrouble = true) :
    (c.parse (.error e)).result = .error e := by
  cases e with
  | system cause path => cases h
  | nullCharacter => rfl
  | notText => rfl

theorem parse_outcomes {text : Except FileError String}
    (h : ¬∃ e, text = .error e ∧ e.isTrouble = true) :
    (c.parse text).result = .ok false ∧ TellsError (c.parse text).lines ∨
      (c.parse text).result = .ok true := by
  cases text with
  | error e =>
    cases e with
    | system cause path => exact Or.inl ⟨rfl, _, _, rfl⟩
    | nullCharacter => exact absurd ⟨_, rfl, rfl⟩ h
    | notText => exact absurd ⟨_, rfl, rfl⟩ h
  | ok text =>
    simp only [parse]
    cases Introspection.parse text with
    | error fault => exact Or.inl ⟨rfl, _, _, rfl⟩
    | ok interfaces => exact Or.inr rfl

theorem generate_outcomes :
    c.generate.result = none ∧ TellsError c.generate.lines ∨
      ∃ code, c.generate.result = some code := by
  unfold generate
  cases c.style.generateAll c.interfaces c.verbose with
  | mk result trace =>
    cases result with
    | error fault => exact Or.inl ⟨rfl, _, _, rfl⟩
    | ok source => exact Or.inr ⟨_, rfl⟩

end Converter

/-! ## The ending -/

/-- The last line that is printed besides the code is about an error. -/
def Outcome.ReportsError (o : Outcome) : Prop :=
  ∃ lines, TellsError lines ∧ o.errors = printed lines

namespace Settings

variable (s : Settings)

theorem convert_of_trouble {e : FileError} (h : e.isTrouble = true) :
    (s.convert (.error e)).1 = .error (.failure e) := by
  simp only [convert]
  rw [s.converter.parse_of_trouble h]

theorem convert_outcomes {text : Except FileError String}
    (h : ¬∃ e, text = .error e ∧ e.isTrouble = true) :
    (s.convert text).1 = .error (.exit 1) ∧ TellsError (s.convert text).2 ∨
      ∃ code, (s.convert text).1 = .ok code := by
  simp only [convert]
  rcases s.converter.parse_outcomes h with ⟨hparse, htells⟩ | hparse
  · rw [hparse]
    exact Or.inl ⟨rfl, htells⟩
  · rw [hparse]
    rcases (s.converter.parse text).converter.generate_outcomes with ⟨hcode, htells⟩ | ⟨code, hcode⟩
    · rw [hcode]
      exact Or.inl ⟨rfl, htells.append _⟩
    · rw [hcode]
      exact Or.inr ⟨code, rfl⟩

/-- Without a file to write, a run ends as making the code does. -/
theorem run_eq (hplace : s.outputFile? = none) (standardInput : ByteArray) (folder : Folder) :
    s.run standardInput folder =
      match s.convert (s.converter.fetch folder standardInput) with
      | (.error ending, lines) => { ending, errors := printed lines, folder }
      | (.ok code, lines) =>
        { ending := .exit 0, output := code, errors := printed lines, folder } := by
  unfold run deliver
  cases s.convert (s.converter.fetch folder standardInput) with
  | mk result lines =>
    cases result with
    | error ending => rfl
    | ok code => simp only [hplace]

end Settings

/-- **How a run ends** that has its arguments in order and prints its code. It breaks off exactly if
the document is not read as text. Otherwise it ends well, or with status 1 after a line about an
error. -/
theorem run_ending {i : Invocation} {o : Options} (hasks : Asks false i.arguments o)
    (hplace : i.place o = none) :
    ((∃ e, (run i).ending = .failure e) ↔ i.Trips o) ∧
    (¬i.Trips o →
      (run i).ending = .exit 0 ∨ (run i).ending = .exit 1 ∧ (run i).ReportsError) := by
  have hrun : run i = (Settings.of o i.environment).run i.standardInput i.folder := by
    unfold run
    rw [parse_eq_ok_iff.mpr hasks]
  rw [hrun, Settings.run_eq _ ((i.place_eq o).trans hplace), i.document_eq]
  by_cases htrips : i.Trips o
  · obtain ⟨e, hdocument, htrouble⟩ := Invocation.document_trouble_iff.mpr htrips
    have hfailure := (Settings.of o i.environment).convert_of_trouble htrouble
    rw [hdocument]
    cases hconvert : (Settings.of o i.environment).convert (.error e) with
    | mk result lines =>
      rw [hconvert] at hfailure
      cases hfailure
      exact ⟨iff_of_true ⟨e, rfl⟩ htrips, fun h => absurd htrips h⟩
  · have houtcomes := (Settings.of o i.environment).convert_outcomes
      (mt Invocation.document_trouble_iff.mp htrips)
    cases hconvert : (Settings.of o i.environment).convert (i.document o) with
    | mk result lines =>
      rw [hconvert] at houtcomes
      rcases houtcomes with ⟨hexit, htells⟩ | ⟨code, hcode⟩
      · cases hexit
        exact ⟨iff_of_false (by simp) htrips, fun _ => Or.inr ⟨rfl, lines, htells, rfl⟩⟩
      · cases hcode
        exact ⟨iff_of_false (by simp) htrips, fun _ => Or.inl rfl⟩

/-- A run for a document that breaks off, with nothing from the environment. -/
def stumpRun : Invocation where
  arguments := ["/tmp/stump.xml"]
  folder := { files := [(["tmp", "stump.xml"], "<node>")] }

/-- The run tells of the error. -/
theorem stump_ends : (run stumpRun).ending = .exit 1 ∧ (run stumpRun).ReportsError := by
  have hasks : Asks false stumpRun.arguments { input := some "/tmp/stump.xml" } :=
    parse_eq_ok_iff.mp (by decide +kernel)
  have hbytes : stumpRun.folder.bytesAt "/tmp/stump.xml" = .ok "<node>".toUTF8 := by
    decide +kernel
  have htrips : ¬stumpRun.Trips { input := some "/tmp/stump.xml" } := by
    rintro (⟨hinput, -⟩ | ⟨hinput, hpath⟩ | ⟨hinput, -, hfile, hinvalid⟩)
    · cases hinput
    · cases hinput
      exact absurd hpath (by decide)
    · cases hinput
      cases hbytes.symm.trans hfile
      exact hinvalid "<node>".isValidUTF8
  have hending : (run stumpRun).ending = .exit 1 := by decide +kernel
  rcases (run_ending hasks rfl).2 htrips with hwell | htold
  · cases hending.symm.trans hwell
  · exact htold

/-- A run for a file with a single byte, which does not begin any character. -/
def blobRun : Invocation where
  arguments := ["blob.xml"]
  folder := { files := [(["blob.xml"], ⟨#[0xff]⟩)] }

/-- The run breaks off without a word. -/
theorem blob_breaks_off :
    Asks false blobRun.arguments { input := some "blob.xml" } ∧
      blobRun.place { input := some "blob.xml" } = none ∧
      (run blobRun).ending = .failure .notText ∧ (run blobRun).errors = "" :=
  ⟨parse_eq_ok_iff.mp (by decide +kernel), by decide +kernel, by decide +kernel, by decide +kernel⟩

end BusTraits.Command
