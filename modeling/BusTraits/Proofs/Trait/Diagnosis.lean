import BusTraits.Proofs.Trait.Run

/-!
# What an assembly says of the signatures

An assembly reads the signatures of an interface one after another (`Interface.occurrences`): for
each method those of its inputs and then those of its outputs, then that of each property, once for
both accessors, then those of each signal. What it remarks, and whether it fails, depends on nothing
else: `survey` says it for any list of signatures, and `Reports` says of a part of an assembly that
it does what the survey of its signatures says. Parts that follow one another report the signatures
of both.

* `Reports.bind`, `Reports.mapM`: the signatures of several parts;
* `interface_reports`: those of a whole interface;
* `Assembler.assemble_of_rejected`, `Assembler.assemble_of_accepted`: the two ways an assembly ends;
* **`Assembler.assemble_diagnosis`**: an assembly fails at the first signature that is rejected,
  with the remarks on those before it, and succeeds with the remarks on all if there is none.
-/

namespace BusTraits

open Identifier (Scope)

/-! ## The signatures of an interface -/

/-- A signature and the member that it belongs to. -/
structure Occurrence where
  member : String
  signature : String
  deriving DecidableEq

namespace Occurrence

/-- Whether a signature is read. -/
def Accepted (o : Occurrence) : Prop := ∃ r, Signature.parse o.signature = .ok r

/-- The remarks made in reading a signature. -/
def remarks (o : Occurrence) : List Signature.Remark :=
  match Signature.parse o.signature with
  | .ok r => r.remarks
  | .error _ => []

end Occurrence

/-- The signatures of arguments of one member. -/
def Argument.occurrences (member : String) (arguments : List Argument) : List Occurrence :=
  arguments.map fun a => ⟨member, a.signature⟩

def Method.occurrences (m : Method) : List Occurrence :=
  Argument.occurrences m.name m.inputs ++ Argument.occurrences m.name m.outputs

def Property.occurrence (p : Property) : Occurrence := ⟨p.name, p.signature⟩

def Signal.occurrences (s : Signal) : List Occurrence := Argument.occurrences s.name s.arguments

/-- The signatures of an interface in the order in which they are read. -/
def Interface.occurrences (i : Interface) : List Occurrence :=
  i.methods.flatMap Method.occurrences ++ i.properties.map Property.occurrence ++
    i.signals.flatMap Signal.occurrences

/-! ## Reading signatures one after another -/

/-- The remarks on the signatures up to the first that is rejected, and the fault that it makes. -/
def survey (interface : String) : List Occurrence → List Signature.Remark × Option Fault
  | [] => ([], none)
  | o :: rest =>
    match Signature.parse o.signature with
    | .error cause => ([], some ⟨interface, o.member, cause⟩)
    | .ok r => (r.remarks ++ (survey interface rest).1, (survey interface rest).2)

section Survey

variable {interface : String} {os rest : List Occurrence}

/-- Signatures that are all read leave the rest to be surveyed. -/
theorem survey_append_of_accepted (h : ∀ o ∈ os, o.Accepted) :
    survey interface (os ++ rest) =
      (os.flatMap Occurrence.remarks ++ (survey interface rest).1, (survey interface rest).2) := by
  induction os with
  | nil => rfl
  | cons o os ih =>
    obtain ⟨r, hr⟩ := h o List.mem_cons_self
    have hremarks : o.remarks = r.remarks := by rw [Occurrence.remarks, hr]
    rw [List.cons_append, survey, hr, ih fun o ho => h o (List.mem_cons_of_mem _ ho)]
    simp only [List.flatMap_cons, hremarks, List.append_assoc]

/-- After a signature that is rejected, nothing is read. -/
theorem survey_append_of_rejected {o : Occurrence} {cause : Signature.Error}
    (h : ∀ o ∈ os, o.Accepted) (ho : Signature.parse o.signature = .error cause) :
    survey interface (os ++ o :: rest) =
      (os.flatMap Occurrence.remarks, some ⟨interface, o.member, cause⟩) := by
  rw [survey_append_of_accepted h, survey, ho]
  simp only [List.append_nil]

theorem survey_of_accepted (h : ∀ o ∈ os, o.Accepted) :
    survey interface os = (os.flatMap Occurrence.remarks, none) := by
  have hall : survey interface (os ++ []) = _ := survey_append_of_accepted h
  simpa [survey] using hall

/-- Signatures are all read, or one of them is the first that is not. -/
theorem accepted_or_first_rejected (os : List Occurrence) :
    (∀ o ∈ os, o.Accepted) ∨
      ∃ before o after cause, os = before ++ o :: after ∧ (∀ x ∈ before, x.Accepted) ∧
        Signature.parse o.signature = .error cause := by
  induction os with
  | nil => exact Or.inl fun _ h => absurd h List.not_mem_nil
  | cons o os ih =>
    cases hparse : Signature.parse o.signature with
    | error cause =>
      exact Or.inr ⟨[], o, os, cause, rfl, fun _ h => absurd h List.not_mem_nil, hparse⟩
    | ok r =>
      rcases ih with hall | ⟨before, x, after, cause, rfl, hbefore, hx⟩
      · exact Or.inl (List.forall_mem_cons.mpr ⟨⟨r, hparse⟩, hall⟩)
      · exact Or.inr ⟨o :: before, x, after, cause, rfl,
          List.forall_mem_cons.mpr ⟨⟨r, hparse⟩, hbefore⟩, hx⟩

/-- A survey that finds a fault does not go on. -/
theorem survey_append_of_fault {fault : Fault} (h : (survey interface os).2 = some fault) :
    survey interface (os ++ rest) = survey interface os := by
  rcases accepted_or_first_rejected os with hall | ⟨before, o, after, cause, rfl, hbefore, ho⟩
  · rw [survey_of_accepted hall] at h
    cases h
  · rw [List.append_assoc, List.cons_append, survey_append_of_rejected hbefore ho,
      survey_append_of_rejected hbefore ho]

/-- A survey that finds none goes on with what follows. -/
theorem survey_append_of_none (h : (survey interface os).2 = none) :
    survey interface (os ++ rest) =
      ((survey interface os).1 ++ (survey interface rest).1, (survey interface rest).2) := by
  rcases accepted_or_first_rejected os with hall | ⟨before, o, after, cause, rfl, hbefore, ho⟩
  · rw [survey_append_of_accepted hall, survey_of_accepted hall]
  · rw [survey_append_of_rejected hbefore ho] at h
    cases h

end Survey

/-! ## The parts of an assembly -/

namespace Assembly

variable {α β : Type}

/-- The fault that a part of an assembly ends with. -/
def fault? : Except Fault α → Option Fault
  | .error fault => some fault
  | .ok _ => none

/-- The remarks and the fault of a part of an assembly are those of the survey of `os`, whatever the
progress it starts from. -/
def Reports (interface : String) (x : Assembly α) (os : List Occurrence) : Prop :=
  ∀ p, (x.run.run p).2.remarks = p.remarks ++ (survey interface os).1 ∧
    fault? (x.run.run p).1 = (survey interface os).2

namespace Reports

variable {interface : String} {x : Assembly α} {f : α → Assembly β} {os rest : List Occurrence}

/-- A part that always succeeds and makes no remarks. -/
theorem of_silent (h : ∀ p, ∃ v q, Yields x p v q ∧ q.remarks = p.remarks) :
    Reports interface x [] := by
  intro p
  obtain ⟨v, q, hx, hq⟩ := h p
  rw [show x.run.run p = (.ok v, q) from hx]
  exact ⟨by rw [hq]; exact (List.append_nil _).symm, rfl⟩

theorem pure (v : α) : Reports interface (Pure.pure v) [] :=
  of_silent fun p => ⟨v, p, yields_pure.mpr ⟨rfl, rfl⟩, rfl⟩

/-- **One part after another**: the signatures of both, as long as the second does not depend on
what the first gives. -/
theorem bind (hx : Reports interface x os) (hf : ∀ v, Reports interface (f v) rest) :
    Reports interface (x >>= f) (os ++ rest) := by
  intro p
  obtain ⟨hremarks, hfault⟩ := hx p
  rw [ExceptT.run_bind, StateT.run_bind]
  cases hrun : x.run.run p with
  | mk result q =>
    rw [hrun] at hremarks hfault
    cases result with
    | error fault =>
      rw [survey_append_of_fault hfault.symm]
      exact ⟨hremarks, hfault⟩
    | ok v =>
      rw [survey_append_of_none hfault.symm]
      obtain ⟨hremarks', hfault'⟩ := hf v q
      refine ⟨?_, hfault'⟩
      rw [← List.append_assoc, ← hremarks]
      exact hremarks'

/-- What reads no signature may follow. -/
theorem bind_silent (hx : Reports interface x os) (hf : ∀ v, Reports interface (f v) []) :
    Reports interface (x >>= f) os := by
  have h := hx.bind hf
  rwa [List.append_nil] at h

/-- A run over a list has the signatures of all its parts. -/
theorem mapM {g : α → List Occurrence} (hf : ∀ v, Reports interface (f v) (g v)) :
    ∀ xs : List α, Reports interface (xs.mapM f) (xs.flatMap g)
  | [] => pure []
  | v :: xs => by
    rw [List.mapM_cons, List.flatMap_cons]
    exact (hf v).bind fun w => (mapM hf xs).bind_silent fun ws => pure (w :: ws)

theorem mapM_single {g : α → Occurrence} (hf : ∀ v, Reports interface (f v) [g v])
    (xs : List α) : Reports interface (xs.mapM f) (xs.map g) := by
  rw [List.map_eq_flatMap]
  exact mapM hf xs

end Reports

variable {a : Assembler} {context : RustType.Context} {interface : String}

/-! A step that only claims an identifier, tells of something or looks at the progress reads no
signature. -/

theorem claim_reports (role : Identifier.Role) (name affix : String) :
    Reports interface (claim role name affix) [] :=
  .of_silent fun _ => ⟨_, _, yields_claim.mpr ⟨rfl, rfl⟩, rfl⟩

theorem tell_reports (event : Event) : Reports interface (tell a event) [] :=
  .of_silent fun p => ⟨(), _, yields_tell.mpr rfl, told_remarks a event p⟩

theorem enterSignals_reports (style : Style) : Reports interface (enterSignals style) [] := by
  refine .of_silent fun p => ⟨(), _, yields_enterSignals.mpr rfl, ?_⟩
  unfold entered
  split <;> rfl

theorem get_reports : Reports interface (get : Assembly Progress) [] :=
  .of_silent fun p => ⟨p, p, yields_get.mpr ⟨rfl, rfl⟩, rfl⟩

/-- **The step that reads a signature.** -/
theorem rustType_reports (member signature : String) :
    Reports interface (rustType context interface member signature) [⟨member, signature⟩] := by
  intro p
  rw [rustType, RustType.ofSignature, survey]
  cases Signature.parse signature with
  | error cause => exact ⟨(List.append_nil _).symm, rfl⟩
  | ok r =>
    refine ⟨?_, rfl⟩
    show p.remarks ++ r.remarks = p.remarks ++ (r.remarks ++ [])
    rw [List.append_nil]

theorem parameters_reports (member : String) :
    ∀ (arguments : List Argument) (scope : Scope),
      Reports interface (parameters context interface member scope arguments)
        (Argument.occurrences member arguments)
  | [], _ => .pure []
  | argument :: rest, _ =>
    (rustType_reports member argument.signature).bind fun _ =>
      (parameters_reports member rest _).bind_silent fun _ => .pure _

theorem method_reports (m : Method) :
    Reports interface (method a interface m) m.occurrences :=
  (claim_reports _ _ _).bind fun _ => (tell_reports _).bind fun _ =>
    (parameters_reports m.name m.inputs _).bind fun _ =>
      (Reports.mapM_single (fun o : Argument => rustType_reports m.name o.signature)
        m.outputs).bind_silent fun _ => .pure _

theorem accessor_reports (c : Bool) {x : Assembly Declaration} (hx : Reports interface x []) :
    Reports interface (if c then List.singleton <$> x else pure []) [] := by
  cases c with
  | false => exact .pure []
  | true =>
    rw [if_pos rfl, map_eq_pure_bind]
    exact hx.bind_silent fun _ => .pure _

/-- Both accessors of a property share one reading of its signature. -/
theorem property_reports (p : Property) :
    Reports interface (property a interface p) [p.occurrence] := by
  rw [property_eq]
  refine (rustType_reports p.name p.signature).bind_silent fun type => ?_
  have hgetter : Reports interface (getter a type p) [] :=
    (claim_reports _ _ _).bind fun _ => (tell_reports _).bind fun _ => .pure _
  have hsetter : Reports interface (setter a type p) [] :=
    (claim_reports _ _ _).bind fun _ => (tell_reports _).bind fun _ => .pure _
  exact (accessor_reports _ hgetter).bind fun _ =>
    (accessor_reports _ hsetter).bind_silent fun _ => .pure _

theorem signal_reports (s : Signal) :
    Reports interface (signal a interface s) s.occurrences :=
  (claim_reports _ _ _).bind fun _ => (tell_reports _).bind fun _ =>
    (parameters_reports s.name s.arguments _).bind_silent fun _ => .pure _

/-- **A whole interface reports its signatures in their order.** -/
theorem interface_reports (i : Interface) :
    Reports i.name (Assembly.interface a i) i.occurrences := by
  rw [Interface.occurrences, List.append_assoc]
  exact (Reports.mapM method_reports i.methods).bind fun _ =>
    (Reports.mapM_single property_reports i.properties).bind fun _ =>
      (enterSignals_reports _).bind fun _ =>
        (Reports.mapM signal_reports i.signals).bind_silent fun _ =>
          get_reports.bind fun _ => (tell_reports _).bind fun _ => .pure _

end Assembly

/-! ## The whole assembly -/

namespace Assembler

open Assembly

variable {a : Assembler} {i : Interface}

/-- An assembly and the assembler after it are what the survey of the interface says. -/
theorem assemble_survey (a : Assembler) (i : Interface) :
    (a.assemble i).assembler.remarks = (survey i.name i.occurrences).1 ∧
      fault? (a.assemble i).result = (survey i.name i.occurrences).2 :=
  interface_reports i {}

/-- A trait carries the remarks of its assembler. -/
theorem assemble_remarks {t : Trait} (h : (a.assemble i).result = .ok t) :
    t.remarks = (a.assemble i).assembler.remarks := by
  obtain ⟨q, hq⟩ := assemble_ok.mp h
  have hrun : (a.assemble i).assembler.remarks = q.remarks := by
    unfold assemble
    rw [show (Assembly.interface a i).run.run {} = (.ok t, q) from hq]
  obtain ⟨methods, p₁, accessors, p₂, signals, p₃, -, -, -, rfl, rfl⟩ := yields_interface.mp hq
  rw [hrun, told_remarks]

/-- An assembly stops at the first signature that is rejected. -/
theorem assemble_of_rejected {before after : List Occurrence} {o : Occurrence}
    {cause : Signature.Error} (hsplit : i.occurrences = before ++ o :: after)
    (hbefore : ∀ x ∈ before, x.Accepted) (ho : Signature.parse o.signature = .error cause) :
    (a.assemble i).result = .error ⟨i.name, o.member, cause⟩ ∧
      (a.assemble i).assembler.remarks = before.flatMap Occurrence.remarks := by
  obtain ⟨hremarks, hfault⟩ := assemble_survey a i
  rw [hsplit, survey_append_of_rejected hbefore ho] at hremarks hfault
  cases hresult : (a.assemble i).result with
  | ok t =>
    rw [hresult] at hfault
    cases hfault
  | error fault =>
    rw [hresult] at hfault
    exact ⟨congrArg _ (Option.some.inj hfault), hremarks⟩

/-- An assembly of signatures that are all read succeeds. -/
theorem assemble_of_accepted (h : ∀ o ∈ i.occurrences, o.Accepted) :
    ∃ t, (a.assemble i).result = .ok t ∧
      t.remarks = i.occurrences.flatMap Occurrence.remarks ∧
      (a.assemble i).assembler.remarks = t.remarks := by
  obtain ⟨hremarks, hfault⟩ := assemble_survey a i
  rw [survey_of_accepted h] at hremarks hfault
  cases hresult : (a.assemble i).result with
  | error fault =>
    rw [hresult] at hfault
    cases hfault
  | ok t =>
    have ht := assemble_remarks hresult
    exact ⟨t, rfl, ht.trans hremarks, ht.symm⟩

/-- **Diagnosis of an assembly**: it fails exactly if some signature is rejected; it then reports
the first of them, with the interface and the member, and the assembler is left with the remarks on
the signatures before it; otherwise the trait has the remarks on all signatures, in their order. -/
theorem assemble_diagnosis (a : Assembler) (i : Interface) :
    ((∃ fault, (a.assemble i).result = .error fault) ↔ ∃ o ∈ i.occurrences, ¬o.Accepted) ∧
    (∀ before o after cause, i.occurrences = before ++ o :: after →
      (∀ x ∈ before, x.Accepted) → Signature.parse o.signature = .error cause →
        (∃ fault, (a.assemble i).result = .error fault ∧
          fault.message = i.name ++ "." ++ o.member ++ ": " ++ cause.message) ∧
        (a.assemble i).assembler.remarks = before.flatMap Occurrence.remarks) ∧
    ((∀ o ∈ i.occurrences, o.Accepted) →
      ∃ t, (a.assemble i).result = .ok t ∧
        t.remarks = i.occurrences.flatMap Occurrence.remarks ∧
        (a.assemble i).assembler.remarks = t.remarks) := by
  refine ⟨⟨?_, ?_⟩, ?_, assemble_of_accepted⟩
  · rintro ⟨fault, hresult⟩
    by_contra hnone
    obtain ⟨t, ht, -⟩ := assemble_of_accepted (a := a) (i := i) fun o ho => by
      by_contra hrejected
      exact hnone ⟨o, ho, hrejected⟩
    rw [hresult] at ht
    cases ht
  · rintro ⟨o, ho, hrejected⟩
    rcases accepted_or_first_rejected i.occurrences with hall | hfirst
    · exact absurd (hall o ho) hrejected
    · obtain ⟨before, x, after, cause, hsplit, hbefore, hx⟩ := hfirst
      exact ⟨_, (assemble_of_rejected hsplit hbefore hx).1⟩
  · intro before o after cause hsplit hbefore ho
    obtain ⟨hresult, hremarks⟩ := assemble_of_rejected hsplit hbefore ho
    exact ⟨⟨_, hresult, rfl⟩, hremarks⟩

/-- A method whose reply is malformed, although its call is not, and a property of no known type. -/
def broken : Interface where
  name := "org.example.Broken"
  methods := [⟨"Open", [⟨none, "(i", .output, []⟩, ⟨none, "a", .input, []⟩], []⟩]
  properties := [⟨"Level", "?", .readWrite, []⟩]

/-- The method makes the assembly fail, with a remark on its call; without it there is one remark on
the property. -/
theorem broken_diagnosis :
    (∃ fault, (assemble { style := .proxy } broken).result = .error fault ∧
      fault.message = "org.example.Broken.Open: Malformed D-Bus signature '(i' at column 2") ∧
    (assemble { style := .proxy } broken).assembler.remarks = [⟨"a", .danglingArray 1⟩] ∧
    ∃ t, (assemble { style := .proxy } { broken with methods := [] }).result = .ok t ∧
      t.remarks = [⟨"?", .unknownCode '?' 1⟩] := by
  have hcall : (⟨"Open", "a"⟩ : Occurrence).Accepted :=
    ⟨⟨.array .unknown, [⟨"a", .danglingArray 1⟩]⟩, by decide +kernel⟩
  have hreply : Signature.parse "(i" = .error (.malformed "(i" 2) := by decide +kernel
  have hlevel : (⟨"Level", "?"⟩ : Occurrence).Accepted :=
    ⟨⟨.unknown, [⟨"?", .unknownCode '?' 1⟩]⟩, by decide +kernel⟩
  obtain ⟨⟨fault, hfault, hmessage⟩, hremarks⟩ :=
    (assemble_diagnosis { style := .proxy } broken).2.1 [⟨"Open", "a"⟩] ⟨"Open", "(i"⟩
      [⟨"Level", "?"⟩] _ (by decide +kernel) (by simpa using hcall) hreply
  obtain ⟨t, ht, htrait, -⟩ :=
    (assemble_diagnosis { style := .proxy } { broken with methods := [] }).2.2 (by
      intro o ho
      rw [List.mem_singleton.mp ho]
      exact hlevel)
  refine ⟨⟨fault, hfault, ?_⟩, ?_, t, ht, ?_⟩
  · rw [hmessage]
    decide +kernel
  · rw [hremarks]
    decide +kernel
  · rw [htrait]
    decide +kernel

end Assembler

end BusTraits
