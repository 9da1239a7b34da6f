import BusTraits.Proofs.FirstFault
import BusTraits.Trait.Assembly

/-!
# What an assembly has done when it succeeds

`Yields x p v q` says that the part `x` of an assembly, started at the progress `p`, succeeds with
`v` and leaves the progress `q`. There is one inversion lemma for each part of an assembly
(`yields_method`, `yields_property`, ..., `yields_interface`), and it says everything the part
has done: later facts are read off these and do not look at the parts again.
-/

namespace BusTraits.Assembly

open Identifier (Scope)

variable {α β : Type}

/-- From the progress `p`, the part `x` of an assembly succeeds with `v` and leaves `q`. -/
def Yields (x : Assembly α) (p : Progress) (v : α) (q : Progress) : Prop :=
  x.run.run p = (.ok v, q)

/-- A part that succeeds does so in one way. -/
theorem Yields.unique {x : Assembly α} {p q q' : Progress} {v w : α} (h : Yields x p v q)
    (h' : Yields x p w q') : v = w ∧ q = q' := by
  unfold Yields at h h'
  rw [h] at h'
  cases h'
  exact ⟨rfl, rfl⟩

/-! ## The steps of the monad -/

theorem yields_pure {v w : α} {p q : Progress} : Yields (pure v) p w q ↔ w = v ∧ q = p := by
  constructor
  · intro h
    cases h
    exact ⟨rfl, rfl⟩
  · rintro ⟨rfl, rfl⟩
    rfl

theorem yields_throw {fault : Fault} {p q : Progress} {w : α} :
    ¬ Yields (throw fault : Assembly α) p w q := by
  intro h
  cases h

theorem yields_bind {x : Assembly α} {f : α → Assembly β} {p q : Progress} {w : β} :
    Yields (x >>= f) p w q ↔ ∃ v p₁, Yields x p v p₁ ∧ Yields (f v) p₁ w q := by
  unfold Yields
  rw [ExceptT.run_bind, StateT.run_bind]
  cases hx : x.run.run p with
  | mk result p₁ =>
    cases result with
    | error fault =>
      constructor
      · intro h
        cases h
      · rintro ⟨_, _, h, _⟩
        cases h
    | ok v =>
      constructor
      · exact fun h => ⟨v, p₁, rfl, h⟩
      · rintro ⟨_, _, h, hf⟩
        cases h
        exact hf

theorem yields_modify {f : Progress → Progress} {p q : Progress} {u : Unit} :
    Yields (modify f) p u q ↔ q = f p := by
  constructor
  · intro h
    cases h
    rfl
  · rintro rfl
    rfl

theorem yields_get {p q r : Progress} : Yields get p r q ↔ r = p ∧ q = p := by
  constructor
  · intro h
    cases h
    exact ⟨rfl, rfl⟩
  · rintro ⟨rfl, rfl⟩
    rfl

theorem yields_map {x : Assembly α} {f : α → β} {p q : Progress} {w : β} :
    Yields (f <$> x) p w q ↔ ∃ v, Yields x p v q ∧ w = f v := by
  rw [map_eq_pure_bind, yields_bind]
  constructor
  · rintro ⟨v, p₁, hx, hw⟩
    obtain ⟨rfl, rfl⟩ := yields_pure.mp hw
    exact ⟨v, hx, rfl⟩
  · rintro ⟨v, hx, rfl⟩
    exact ⟨v, q, hx, yields_pure.mpr ⟨rfl, rfl⟩⟩

/-- A part that is left out gives nothing and does nothing. -/
theorem yields_optional {c : Bool} {x : Assembly α} {p q : Progress} {vs : List α} :
    Yields (if c then List.singleton <$> x else pure []) p vs q ↔
      (c = true ∧ ∃ v, Yields x p v q ∧ vs = [v]) ∨ (c = false ∧ vs = [] ∧ q = p) := by
  cases c with
  | false => simp [yields_pure]
  | true => simp [yields_map, List.singleton]

theorem yields_mapM_nil {f : α → Assembly β} {p q : Progress} {ws : List β} :
    Yields (List.mapM f []) p ws q ↔ ws = [] ∧ q = p := by
  rw [List.mapM_nil]
  exact yields_pure

theorem yields_mapM_cons {f : α → Assembly β} {x : α} {xs : List α} {p q : Progress}
    {ws : List β} :
    Yields (List.mapM f (x :: xs)) p ws q ↔
      ∃ w p₁ vs, Yields (f x) p w p₁ ∧ Yields (List.mapM f xs) p₁ vs q ∧ ws = w :: vs := by
  rw [List.mapM_cons, yields_bind]
  constructor
  · rintro ⟨w, p₁, hx, h⟩
    obtain ⟨vs, p₂, hxs, hp⟩ := yields_bind.mp h
    obtain ⟨rfl, rfl⟩ := yields_pure.mp hp
    exact ⟨w, p₁, vs, hx, hxs, rfl⟩
  · rintro ⟨w, p₁, vs, hx, hxs, rfl⟩
    exact ⟨w, p₁, hx, yields_bind.mpr ⟨vs, q, hxs, yields_pure.mpr ⟨rfl, rfl⟩⟩⟩

/-- A run over two lists is a run over the first and then one over the second. -/
theorem yields_mapM_append {f : α → Assembly β} {xs ys : List α} {p q : Progress}
    {ws : List β} :
    Yields ((xs ++ ys).mapM f) p ws q ↔
      ∃ us p₁ vs, Yields (xs.mapM f) p us p₁ ∧ Yields (ys.mapM f) p₁ vs q ∧ ws = us ++ vs := by
  rw [List.mapM_append, yields_bind]
  constructor
  · rintro ⟨us, p₁, hxs, h⟩
    obtain ⟨vs, p₂, hys, hp⟩ := yields_bind.mp h
    obtain ⟨rfl, rfl⟩ := yields_pure.mp hp
    exact ⟨us, p₁, vs, hxs, hys, rfl⟩
  · rintro ⟨us, p₁, vs, hxs, hys, rfl⟩
    exact ⟨us, p₁, hxs, yields_bind.mpr ⟨vs, q, hys, yields_pure.mpr ⟨rfl, rfl⟩⟩⟩

/-- What every run of `f` gives, a run over a list gives of the list. -/
theorem forall₂_of_mapM {f : α → Assembly β} {R : α → β → Prop}
    (hf : ∀ x p w q, Yields (f x) p w q → R x w) :
    ∀ {xs : List α} {p : Progress} {ws : List β} {q : Progress},
      Yields (xs.mapM f) p ws q → List.Forall₂ R xs ws
  | [], _, _, _, h => by
    obtain ⟨rfl, -⟩ := yields_mapM_nil.mp h
    exact List.Forall₂.nil
  | x :: xs, _, _, _, h => by
    obtain ⟨w, p₁, vs, hx, hxs, rfl⟩ := yields_mapM_cons.mp h
    exact List.Forall₂.cons (hf x _ w p₁ hx) (forall₂_of_mapM hf hxs)

/-- What holds of every result of `f` holds of all results of a run over a list. -/
theorem forall_of_mapM {f : α → Assembly β} {P : β → Prop}
    (hf : ∀ x p w q, Yields (f x) p w q → P w) {xs : List α} {p : Progress} {ws : List β}
    {q : Progress} (h : Yields (xs.mapM f) p ws q) : ∀ w ∈ ws, P w := by
  intro w hw
  obtain ⟨_, -, hp⟩ := exists_of_forall₂ (forall₂_of_mapM (R := fun _ w => P w) hf h) w hw
  exact hp

/-- What every run of `f` keeps, a run over a list keeps. -/
theorem kept_of_mapM {f : α → Assembly β} {γ : Type} (view : Progress → γ)
    (hf : ∀ x p w q, Yields (f x) p w q → view q = view p) :
    ∀ {xs : List α} {p : Progress} {ws : List β} {q : Progress},
      Yields (xs.mapM f) p ws q → view q = view p
  | [], _, _, _, h => by
    obtain ⟨-, rfl⟩ := yields_mapM_nil.mp h
    rfl
  | x :: xs, _, _, _, h => by
    obtain ⟨w, p₁, vs, hx, hxs, -⟩ := yields_mapM_cons.mp h
    rw [kept_of_mapM view hf hxs, hf x _ w p₁ hx]

/-! ## The steps of an assembly -/

/-- The progress after an identifier is claimed. -/
def claimed (p : Progress) (role : Identifier.Role) (name affix : String) : Progress :=
  { p with scope := (p.scope.claim role (some name) affix).2 }

/-- The progress after a step is told of. -/
def told (a : Assembler) (event : Event) (p : Progress) : Progress :=
  if a.verbose then { p with trace := p.trace ++ [event] } else p

@[simp]
theorem told_scope (a : Assembler) (event : Event) (p : Progress) :
    (told a event p).scope = p.scope := by
  unfold told
  split <;> rfl

@[simp]
theorem told_remarks (a : Assembler) (event : Event) (p : Progress) :
    (told a event p).remarks = p.remarks := by
  unfold told
  split <;> rfl

theorem yields_claim {role : Identifier.Role} {name affix : String} {p q : Progress}
    {i : Identifier} :
    Yields (claim role name affix) p i q ↔
      i = (p.scope.claim role (some name) affix).1 ∧ q = claimed p role name affix := by
  constructor
  · intro h
    cases h
    exact ⟨rfl, rfl⟩
  · rintro ⟨rfl, rfl⟩
    rfl

theorem yields_tell {a : Assembler} {event : Event} {p q : Progress} {u : Unit} :
    Yields (tell a event) p u q ↔ q = told a event p := by
  unfold tell told
  split
  · exact yields_modify
  · rw [yields_pure]
    exact and_iff_right rfl

theorem yields_rustType {context : RustType.Context} {interface member signature : String}
    {p q : Progress} {type : String} :
    Yields (rustType context interface member signature) p type q ↔
      ∃ remarks, RustType.ofSignature context signature = .ok (type, remarks) ∧
        q = { p with remarks := p.remarks ++ remarks } := by
  unfold rustType
  cases h : RustType.ofSignature context signature with
  | error cause =>
    constructor
    · exact fun h' => absurd h' yields_throw
    · rintro ⟨_, h', _⟩
      cases h'
  | ok written =>
    obtain ⟨type', remarks⟩ := written
    simp only [yields_bind, yields_modify, yields_pure]
    constructor
    · rintro ⟨_, _, rfl, rfl, rfl⟩
      exact ⟨remarks, rfl, rfl⟩
    · rintro ⟨_, h', rfl⟩
      cases h'
      exact ⟨(), _, rfl, rfl, rfl⟩

/-! ## The parts of an assembly -/

variable {a : Assembler} {context : RustType.Context} {interface member : String}
  {p q : Progress}

theorem yields_parameters_nil {scope : Scope} {ps : List Parameter} :
    Yields (parameters context interface member scope []) p ps q ↔ ps = [] ∧ q = p :=
  yields_pure

theorem yields_parameters_cons {scope : Scope} {argument : Argument} {rest : List Argument}
    {ps : List Parameter} :
    Yields (parameters context interface member scope (argument :: rest)) p ps q ↔
      ∃ type p₁ others,
        Yields (rustType context interface member argument.signature) p type p₁ ∧
        Yields (parameters context interface member
          (scope.claim .argument argument.name).2 rest) p₁ others q ∧
        ps = ⟨(scope.claim .argument argument.name).1.name, type, argument.name,
          argument.annotations⟩ :: others := by
  rw [parameters, yields_bind]
  constructor
  · rintro ⟨type, p₁, ht, h⟩
    obtain ⟨others, p₂, ho, hp⟩ := yields_bind.mp h
    obtain ⟨rfl, rfl⟩ := yields_pure.mp hp
    exact ⟨type, p₁, others, ht, ho, rfl⟩
  · rintro ⟨type, p₁, others, ht, ho, rfl⟩
    exact ⟨type, p₁, ht, yields_bind.mpr ⟨others, q, ho, yields_pure.mpr ⟨rfl, rfl⟩⟩⟩

theorem rustType_scope {context : RustType.Context} {interface member signature : String}
    {p q : Progress} {type : String}
    (h : Yields (rustType context interface member signature) p type q) : q.scope = p.scope := by
  obtain ⟨remarks, -, rfl⟩ := yields_rustType.mp h
  rfl

/-- Parameters leave the scope of the members alone. -/
theorem parameters_scope :
    ∀ {arguments : List Argument} {scope : Scope} {p q : Progress} {ps : List Parameter},
      Yields (parameters context interface member scope arguments) p ps q → q.scope = p.scope
  | [], _, _, _, _, h => by
    obtain ⟨-, rfl⟩ := yields_parameters_nil.mp h
    rfl
  | _ :: _, _, _, _, _, h => by
    obtain ⟨type, p₁, others, ht, ho, -⟩ := yields_parameters_cons.mp h
    rw [parameters_scope ho, rustType_scope ht]

theorem yields_method {m : Method} {d : Declaration} :
    Yields (method a interface m) p d q ↔
      ∃ i ps p₁ results,
        i = (p.scope.claim .method (some m.name) "").1 ∧
        Yields (parameters a.context interface m.name .empty m.inputs)
          (told a (.method m.name i.name) (claimed p .method m.name "")) ps p₁ ∧
        Yields (m.outputs.mapM fun o => rustType a.context interface m.name o.signature)
          p₁ results q ∧
        d = {
          role := .method (RustType.tuple results)
          identifier := i.name
          wireName := m.name
          parameters := ps
          namesWire := i.diverges
          annotations := m.annotations } := by
  simp only [method, yields_bind, yields_claim, yields_tell, yields_pure]
  constructor
  · rintro ⟨i, _, ⟨hi, rfl⟩, _, _, rfl, ps, p₁, hps, results, _, hrs, rfl, rfl⟩
    exact ⟨i, ps, p₁, results, hi, hps, hrs, rfl⟩
  · rintro ⟨i, ps, p₁, results, hi, hps, hrs, rfl⟩
    exact ⟨i, _, ⟨hi, rfl⟩, (), _, rfl, ps, p₁, hps, results, q, hrs, rfl, rfl⟩

theorem yields_getter {type : String} {pr : Property} {d : Declaration} :
    Yields (getter a type pr) p d q ↔
      ∃ i, i = (p.scope.claim .property (some pr.name) a.style.getterAffix).1 ∧
        q = told a (.getter pr.name i.name) (claimed p .property pr.name a.style.getterAffix) ∧
        d = {
          role := .getter type
          identifier := i.name
          wireName := pr.name
          namesWire := i.diverges
          annotations := pr.annotations } := by
  simp only [getter, yields_bind, yields_claim, yields_tell, yields_pure]
  constructor
  · rintro ⟨i, _, ⟨hi, rfl⟩, _, _, rfl, rfl, rfl⟩
    exact ⟨i, hi, rfl, rfl⟩
  · rintro ⟨i, hi, rfl, rfl⟩
    exact ⟨i, _, ⟨hi, rfl⟩, (), _, rfl, rfl, rfl⟩

/-- A scope without names leaves the parameter of a setter its name. -/
theorem setterParameter_eq (type : String) : setterParameter type = ⟨"value", type, none, []⟩ := by
  have hvalue : (Scope.empty.claim .argument (some "value")).1.name = "value" := by
    decide +kernel
  rw [setterParameter, hvalue]

theorem yields_setter {type : String} {pr : Property} {d : Declaration} :
    Yields (setter a type pr) p d q ↔
      ∃ i, i = (p.scope.claim .property (some pr.name) a.style.setterAffix).1 ∧
        q = told a (.setter pr.name i.name) (claimed p .property pr.name a.style.setterAffix) ∧
        d = {
          role := .setter
          identifier := i.name
          wireName := pr.name
          parameters := [setterParameter type]
          namesWire := i.diverges
          annotations := pr.annotations } := by
  simp only [setter, yields_bind, yields_claim, yields_tell, yields_pure]
  constructor
  · rintro ⟨i, _, ⟨hi, rfl⟩, _, _, rfl, rfl, rfl⟩
    exact ⟨i, hi, rfl, rfl⟩
  · rintro ⟨i, hi, rfl, rfl⟩
    exact ⟨i, _, ⟨hi, rfl⟩, (), _, rfl, rfl, rfl⟩

/-- The two accessors, one after the other. -/
theorem property_eq (pr : Property) :
    property a interface pr = (do
      let type ← rustType a.context interface pr.name pr.signature
      (if pr.access.readable then List.singleton <$> getter a type pr else pure []) >>= fun gs =>
        (if pr.access.writable then List.singleton <$> setter a type pr else pure []) >>= fun ss =>
          pure (gs ++ ss)) := by
  unfold property
  cases pr.access.readable <;> cases pr.access.writable <;> rfl

/-- The getter and the setter that a property has, of one type and in this order. -/
theorem yields_property {pr : Property} {ds : List Declaration} :
    Yields (property a interface pr) p ds q ↔
      ∃ type p₁ getters p₂ setters,
        Yields (rustType a.context interface pr.name pr.signature) p type p₁ ∧
        ((pr.access.readable = true ∧ ∃ d, Yields (getter a type pr) p₁ d p₂ ∧ getters = [d]) ∨
          (pr.access.readable = false ∧ getters = [] ∧ p₂ = p₁)) ∧
        ((pr.access.writable = true ∧ ∃ d, Yields (setter a type pr) p₂ d q ∧ setters = [d]) ∨
          (pr.access.writable = false ∧ setters = [] ∧ q = p₂)) ∧
        ds = getters ++ setters := by
  rw [property_eq]
  simp only [yields_bind, yields_optional, yields_pure]
  constructor
  · rintro ⟨type, p₁, ht, getters, p₂, hg, setters, _, hs, rfl, rfl⟩
    exact ⟨type, p₁, getters, p₂, setters, ht, hg, hs, rfl⟩
  · rintro ⟨type, p₁, getters, p₂, setters, ht, hg, hs, rfl⟩
    exact ⟨type, p₁, ht, getters, p₂, hg, setters, q, hs, rfl, rfl⟩

theorem yields_signal {s : Signal} {d : Declaration} :
    Yields (signal a interface s) p d q ↔
      ∃ i ps,
        i = (p.scope.claim .signal (some s.name) a.style.signalAffix).1 ∧
        Yields (parameters a.signalContext interface s.name .empty s.arguments)
          (told a (.signal s.name i.name) (claimed p .signal s.name a.style.signalAffix)) ps q ∧
        d = {
          role := .signal
          identifier := i.name
          wireName := s.name
          parameters := ps
          namesWire := i.diverges
          annotations := s.annotations } := by
  simp only [signal, yields_bind, yields_claim, yields_tell, yields_pure]
  constructor
  · rintro ⟨i, _, ⟨hi, rfl⟩, _, _, rfl, ps, _, hps, rfl, rfl⟩
    exact ⟨i, ps, hi, hps, rfl⟩
  · rintro ⟨i, ps, hi, hps, rfl⟩
    exact ⟨i, _, ⟨hi, rfl⟩, (), _, rfl, ps, q, hps, rfl, rfl⟩

/-- The progress with which the signals begin. -/
def entered (style : Style) (p : Progress) : Progress :=
  if style.signalsAreMembers then p else { p with scope := .empty }

theorem yields_enterSignals {style : Style} {u : Unit} :
    Yields (enterSignals style) p u q ↔ q = entered style p := by
  unfold enterSignals entered
  split
  · rw [yields_pure]
    exact and_iff_right rfl
  · exact yields_modify

theorem yields_interface {i : Interface} {t : Trait} :
    Yields (Assembly.interface a i) p t q ↔
      ∃ methods p₁ accessors p₂ signals p₃,
        Yields (i.methods.mapM (method a i.name)) p methods p₁ ∧
        Yields (i.properties.mapM (property a i.name)) p₁ accessors p₂ ∧
        Yields (i.signals.mapM (signal a i.name)) (entered a.style p₂) signals p₃ ∧
        q = told a (.assembled i.name (methods ++ accessors.flatten ++ signals).length
          p₃.remarks.length) p₃ ∧
        t = ⟨i.name, methods ++ accessors.flatten ++ signals, p₃.remarks, i.annotations⟩ := by
  simp only [Assembly.interface, yields_bind, yields_enterSignals, yields_get, yields_tell,
    yields_pure]
  constructor
  · rintro ⟨methods, p₁, hm, accessors, p₂, ha, _, _, rfl, signals, p₃, hs, _, _, ⟨rfl, rfl⟩, _, _,
      rfl, rfl, rfl⟩
    exact ⟨methods, p₁, accessors, p₂, signals, _, hm, ha, hs, rfl, rfl⟩
  · rintro ⟨methods, p₁, accessors, p₂, signals, p₃, hm, ha, hs, rfl, rfl⟩
    exact ⟨methods, p₁, hm, accessors, p₂, ha, (), _, rfl, signals, p₃, hs, p₃, p₃, ⟨rfl, rfl⟩, (),
      _, rfl, rfl, rfl⟩

end BusTraits.Assembly

namespace BusTraits.Assembler

open Assembly

/-- An assembler that gives a trait has run through the whole interface, with nothing claimed at
the beginning. -/
theorem assemble_ok {a : Assembler} {i : Interface} {t : Trait} :
    (a.assemble i).result = .ok t ↔ ∃ q, Yields (Assembly.interface a i) {} t q := by
  unfold assemble Yields
  cases h : (Assembly.interface a i).run.run {} with
  | mk result q =>
    constructor
    · rintro rfl
      exact ⟨q, rfl⟩
    · rintro ⟨_, hq⟩
      cases hq
      rfl

/-- A test on the trait of one interface, run on what the assembler gives. -/
theorem exists_trait {a : Assembler} {i : Interface} {test : Trait → Bool}
    (h : (a.assemble i).result.toOption.any test = true) :
    ∃ t, (a.assemble i).result = .ok t ∧ test t = true := by
  cases ht : (a.assemble i).result with
  | error fault =>
    rw [ht] at h
    cases h
  | ok t =>
    rw [ht] at h
    exact ⟨t, rfl, h⟩

end BusTraits.Assembler
