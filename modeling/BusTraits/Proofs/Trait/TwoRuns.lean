import BusTraits.Proofs.Trait.Run

/-!
# Two assemblies side by side

`Related S S' R x y` compares a part `x` of one assembly with a part `y` of another: started at
progress related by `S`, they fail with the same fault and the same remarks, or both succeed, with
values related by `R` and progress related by `S'`. Parts that follow one another are compared one
by one (`Related.bind`, `Related.mapM`).

The two assemblies may be of different interfaces, as long as these have the same members up to
their annotations (`Interface.Alike`), and the assemblers may differ in what they tell of, in the
remarks they still hold, and in their style. `R` says how annotations are related, and `named`
whether the two runs claim the same identifiers throughout, for which the styles have to be the
same. Methods come first and have no affix, so their identifiers are the same in any case.

* `method_related`, `property_related`, `signal_related`, `interface_related`: the parts of two
  runs;
* **`Assembler.assemble_related`**: two assemblies give the same fault, or traits that are alike;
* `Assembler.Alike.assemble`: alike assemblers give the same trait or the same fault;
* **`Assembler.assembleAll_eq`**: a list of interfaces is assembled as each of them by itself.
-/

namespace BusTraits

/-! ## What is compared -/

/-- Assemblers for the same types. -/
structure Assembler.SameContexts (a b : Assembler) : Prop where
  context : a.context = b.context
  signalContext : a.signalContext = b.signalContext

/-- Assemblers for the same traits. They may tell of their steps or not, and hold other remarks. -/
structure Assembler.Alike (a b : Assembler) : Prop where
  style : a.style = b.style
  context : a.context = b.context
  signalContext : a.signalContext = b.signalContext

theorem Assembler.Alike.sameContexts {a b : Assembler} (h : a.Alike b) : a.SameContexts b :=
  ⟨h.context, h.signalContext⟩

section Alike

variable (R : List Annotation → List Annotation → Prop)

/-- Arguments for the same parameter. -/
structure Argument.Alike (x y : Argument) : Prop where
  name : x.name = y.name
  signature : x.signature = y.signature
  annotations : R x.annotations y.annotations

/-- Methods with the same calls and with replies of the same types. -/
structure Method.Alike (m n : Method) : Prop where
  name : m.name = n.name
  inputs : List.Forall₂ (Argument.Alike R) m.inputs n.inputs
  outputs : List.Forall₂ (fun x y => x.signature = y.signature) m.outputs n.outputs
  annotations : R m.annotations n.annotations

structure Property.Alike (p q : Property) : Prop where
  name : p.name = q.name
  signature : p.signature = q.signature
  access : p.access = q.access
  annotations : R p.annotations q.annotations

structure Signal.Alike (s t : Signal) : Prop where
  name : s.name = t.name
  arguments : List.Forall₂ (Argument.Alike R) s.arguments t.arguments
  annotations : R s.annotations t.annotations

/-- Interfaces with the same members up to annotations. -/
structure Interface.Alike (i j : Interface) : Prop where
  name : i.name = j.name
  methods : List.Forall₂ (Method.Alike R) i.methods j.methods
  properties : List.Forall₂ (Property.Alike R) i.properties j.properties
  signals : List.Forall₂ (Signal.Alike R) i.signals j.signals
  annotations : R i.annotations j.annotations

structure Parameter.Alike (p q : Parameter) : Prop where
  identifier : p.identifier = q.identifier
  rustType : p.rustType = q.rustType
  wireName : p.wireName = q.wireName
  annotations : R p.annotations q.annotations

/-- Declarations of the same member. They have the same identifier if `named`, and in any case if
they are methods. -/
structure Declaration.Alike (named : Prop) (d e : Declaration) : Prop where
  role : d.role = e.role
  wireName : d.wireName = e.wireName
  parameters : List.Forall₂ (Parameter.Alike R) d.parameters e.parameters
  annotations : R d.annotations e.annotations
  names : named ∨ d.isMethod = true → d.identifier = e.identifier ∧ d.namesWire = e.namesWire

structure Trait.Alike (named : Prop) (t u : Trait) : Prop where
  interface : t.interface = u.interface
  declarations : List.Forall₂ (Declaration.Alike R named) t.declarations u.declarations
  remarks : t.remarks = u.remarks
  annotations : R t.annotations u.annotations

variable {R}

/-- An interface is like itself, however annotations are compared. -/
theorem Interface.Alike.refl (hR : ∀ l, R l l) (i : Interface) : i.Alike R i := by
  have harguments : ∀ l : List Argument, List.Forall₂ (Argument.Alike R) l l := fun l =>
    List.forall₂_same.mpr fun x _ => ⟨rfl, rfl, hR _⟩
  refine ⟨rfl, ?_, ?_, ?_, hR _⟩
  · exact List.forall₂_same.mpr fun m _ =>
      ⟨rfl, harguments _, List.forall₂_same.mpr fun _ _ => rfl, hR _⟩
  · exact List.forall₂_same.mpr fun p _ => ⟨rfl, rfl, rfl, hR _⟩
  · exact List.forall₂_same.mpr fun s _ => ⟨rfl, harguments _, hR _⟩

end Alike

theorem Parameter.Alike.eq {p q : Parameter} (h : p.Alike Eq q) : p = q := by
  cases p
  cases q
  cases h
  simp_all

theorem Declaration.Alike.parameters_eq {named : Prop} {d e : Declaration}
    (h : d.Alike Eq named e) : d.parameters = e.parameters :=
  eq_of_forall₂ (fun _ _ => Parameter.Alike.eq) h.parameters

theorem Declaration.Alike.eq {d e : Declaration} (h : d.Alike Eq True e) : d = e := by
  obtain ⟨hidentifier, hnames⟩ := h.names (Or.inl trivial)
  have hparameters := h.parameters_eq
  cases d
  cases e
  cases h
  simp_all

theorem Trait.Alike.eq {t u : Trait} (h : t.Alike Eq True u) : t = u := by
  have hdeclarations := eq_of_forall₂ (fun _ _ => Declaration.Alike.eq) h.declarations
  cases t
  cases u
  cases h
  simp_all

/-- Progress with the same remarks, and with the same identifiers taken if `named`. -/
structure Progress.Alike (named : Prop) (p p' : Progress) : Prop where
  scope : named → p.scope = p'.scope
  remarks : p.remarks = p'.remarks

namespace Assembly

variable {α α' β β' : Type}

/-! ## Runs that fail -/

/-- From the progress `p`, the part `x` of an assembly fails with a fault and leaves `q`. -/
def Fails (x : Assembly α) (p : Progress) (fault : Fault) (q : Progress) : Prop :=
  x.run.run p = (.error fault, q)

/-- What fails is not followed by anything. -/
theorem Fails.bind {x : Assembly α} {p q : Progress} {fault : Fault} (h : Fails x p fault q)
    (f : α → Assembly β) : Fails (x >>= f) p fault q := by
  unfold Fails at h ⊢
  rw [ExceptT.run_bind, StateT.run_bind, h]
  rfl

theorem Fails.of_bind {x : Assembly α} {f : α → Assembly β} {p p₁ q : Progress} {v : α}
    {fault : Fault} (hx : Yields x p v p₁) (hf : Fails (f v) p₁ fault q) :
    Fails (x >>= f) p fault q := by
  unfold Yields at hx
  unfold Fails at hf ⊢
  rw [ExceptT.run_bind, StateT.run_bind, hx]
  exact hf

/-- A signature that is rejected leaves everything as it was. -/
theorem rustType_fails {context : RustType.Context} {interface member signature : String}
    {cause : Signature.Error} (h : RustType.ofSignature context signature = .error cause)
    (p : Progress) :
    Fails (rustType context interface member signature) p ⟨interface, member, cause⟩ p := by
  rw [rustType, h]
  rfl

/-! ## Comparing parts -/

/-- From progress related by `S`, two parts fail alike, or succeed with values related by `R` and
leave progress related by `S'`. -/
def Related (S S' : Progress → Progress → Prop) (R : α → β → Prop) (x : Assembly α)
    (y : Assembly β) : Prop :=
  ∀ p p', S p p' →
    (∃ fault q q', Fails x p fault q ∧ Fails y p' fault q' ∧ q.remarks = q'.remarks) ∨
      ∃ v w q q', Yields x p v q ∧ Yields y p' w q' ∧ R v w ∧ S' q q'

namespace Related

variable {S S₁ S' : Progress → Progress → Prop} {R : α → β → Prop} {R' : α' → β' → Prop}
  {x : Assembly α} {y : Assembly β}

theorem pure {v : α} {w : β} (h : R v w) : Related S S R (Pure.pure v) (Pure.pure w) :=
  fun p p' hS => Or.inr ⟨v, w, p, p', yields_pure.mpr ⟨rfl, rfl⟩, yields_pure.mpr ⟨rfl, rfl⟩, h, hS⟩

/-- **One part after another.** -/
theorem bind {f : α → Assembly α'} {g : β → Assembly β'} (hx : Related S S₁ R x y)
    (hf : ∀ v w, R v w → Related S₁ S' R' (f v) (g w)) :
    Related S S' R' (x >>= f) (y >>= g) := by
  intro p p' hS
  rcases hx p p' hS with ⟨fault, q, q', hp, hp', hremarks⟩ | ⟨v, w, q, q', hp, hp', hR, hS₁⟩
  · exact Or.inl ⟨fault, q, q', hp.bind f, hp'.bind g, hremarks⟩
  · rcases hf v w hR q q' hS₁ with
      ⟨fault, r, r', hq, hq', hremarks⟩ | ⟨v', w', r, r', hq, hq', hR', hS'⟩
    · exact Or.inl ⟨fault, r, r', .of_bind hp hq, .of_bind hp' hq', hremarks⟩
    · exact Or.inr ⟨v', w', r, r', yields_bind.mpr ⟨v, q, hp, hq⟩,
        yields_bind.mpr ⟨w, q', hp', hq'⟩, hR', hS'⟩

/-- Runs over two lists are compared item by item. -/
theorem mapM {γ δ : Type} {T : γ → δ → Prop} {f : γ → Assembly α} {g : δ → Assembly β}
    (hf : ∀ v w, T v w → Related S S R (f v) (g w)) {vs : List γ} {ws : List δ}
    (h : List.Forall₂ T vs ws) : Related S S (List.Forall₂ R) (vs.mapM f) (ws.mapM g) := by
  induction h with
  | nil =>
    rw [List.mapM_nil, List.mapM_nil]
    exact pure List.Forall₂.nil
  | cons hT _ ih =>
    rw [List.mapM_cons, List.mapM_cons]
    exact (hf _ _ hT).bind fun v w hR => ih.bind fun vs ws hRs => pure (List.Forall₂.cons hR hRs)

/-- What is known of progress that is closer may be forgotten. -/
theorem of_closer {T : Progress → Progress → Prop} (h : Related S S' R x y)
    (hT : ∀ p p', T p p' → S p p') : Related T S' R x y :=
  fun p p' hp => h p p' (hT p p' hp)

/-- Two parts that both succeed, compared. -/
theorem yields (h : Related S S' R x y) {p p' q q' : Progress} {v : α} {w : β} (hS : S p p')
    (hx : Yields x p v q) (hy : Yields y p' w q') : R v w ∧ S' q q' := by
  unfold Yields at hx hy
  rcases h p p' hS with ⟨fault, r, r', hp, -, -⟩ | ⟨v', w', r, r', hp, hp', hR, hS'⟩
  · unfold Fails at hp
    rw [hx] at hp
    cases hp
  · unfold Yields at hp hp'
    rw [hx] at hp
    rw [hy] at hp'
    cases hp
    cases hp'
    exact ⟨hR, hS'⟩

end Related

/-! ## The steps of two runs -/

section Steps

variable {a b : Assembler} {context : RustType.Context} {interface member : String}
  {R : List Annotation → List Annotation → Prop} {named : Prop}

/-- With the same affix, the same identifier is claimed. -/
theorem claim_related (role : Identifier.Role) (name : String) {affix affix' : String}
    (h : named → affix = affix') :
    Related (Progress.Alike named) (Progress.Alike named) (fun i j => named → i = j)
      (claim role name affix) (claim role name affix') := by
  intro p p' hp
  refine Or.inr ⟨_, _, _, _, yields_claim.mpr ⟨rfl, rfl⟩, yields_claim.mpr ⟨rfl, rfl⟩, ?_, ?_⟩
  · intro hnamed
    rw [h hnamed, hp.scope hnamed]
  · refine ⟨fun hnamed => ?_, hp.remarks⟩
    unfold claimed
    rw [h hnamed, hp.scope hnamed]

/-- The two runs may tell of different steps. -/
theorem tell_related (event event' : Event) :
    Related (Progress.Alike named) (Progress.Alike named) Eq (tell a event) (tell b event') := by
  intro p p' hp
  refine Or.inr ⟨(), (), _, _, yields_tell.mpr rfl, yields_tell.mpr rfl, rfl, ?_, ?_⟩
  · intro hnamed
    rw [told_scope, told_scope, hp.scope hnamed]
  · rw [told_remarks, told_remarks, hp.remarks]

theorem rustType_related (signature : String) :
    Related (Progress.Alike named) (Progress.Alike named) Eq
      (rustType context interface member signature)
      (rustType context interface member signature) := by
  intro p p' hp
  cases hs : RustType.ofSignature context signature with
  | error cause =>
    exact Or.inl ⟨_, p, p', rustType_fails hs p, rustType_fails hs p', hp.remarks⟩
  | ok written =>
    obtain ⟨type, remarks⟩ := written
    refine Or.inr ⟨type, type, _, _, yields_rustType.mpr ⟨remarks, hs, rfl⟩,
      yields_rustType.mpr ⟨remarks, hs, rfl⟩, rfl, hp.scope, ?_⟩
    show p.remarks ++ remarks = p'.remarks ++ remarks
    rw [hp.remarks]

theorem parameters_related {xs ys : List Argument} (h : List.Forall₂ (Argument.Alike R) xs ys)
    (scope : Identifier.Scope) :
    Related (Progress.Alike named) (Progress.Alike named) (List.Forall₂ (Parameter.Alike R))
      (parameters context interface member scope xs)
      (parameters context interface member scope ys) := by
  induction h generalizing scope with
  | nil => exact .pure List.Forall₂.nil
  | cons hxy _ ih =>
    rw [parameters, parameters, hxy.name, hxy.signature]
    refine (rustType_related _).bind ?_
    rintro type _ rfl
    exact (ih _).bind fun _ _ hrest =>
      .pure (List.Forall₂.cons ⟨rfl, rfl, rfl, hxy.annotations⟩ hrest)

/-- Methods have no affix, so that the style does not matter. -/
theorem method_related (hcontext : a.context = b.context) {m n : Method} (h : m.Alike R n) :
    Related (Progress.Alike True) (Progress.Alike True) (Declaration.Alike R named)
      (method a interface m) (method b interface n) := by
  unfold method
  rw [hcontext, h.name]
  refine (claim_related .method n.name fun _ => rfl).bind fun i j hij => ?_
  obtain rfl := hij trivial
  refine (tell_related _ _).bind fun _ _ _ => ?_
  refine (parameters_related h.inputs _).bind fun ps qs hps => ?_
  have houtputs : ∀ x y : Argument, x.signature = y.signature →
      Related (Progress.Alike True) (Progress.Alike True) Eq
        (rustType b.context interface n.name x.signature)
        (rustType b.context interface n.name y.signature) := by
    intro x y hxy
    rw [hxy]
    exact rustType_related _
  refine (Related.mapM houtputs h.outputs).bind fun results results' hresults => ?_
  obtain rfl := eq_of_forall₂ (fun _ _ h => h) hresults
  exact .pure ⟨rfl, rfl, hps, h.annotations, fun _ => ⟨rfl, rfl⟩⟩

theorem getter_related (hstyle : named → a.style = b.style) (type : String) {p q : Property}
    (h : p.Alike R q) :
    Related (Progress.Alike named) (Progress.Alike named) (Declaration.Alike R named)
      (getter a type p) (getter b type q) := by
  unfold getter
  rw [h.name]
  refine (claim_related .property q.name fun hnamed => by rw [hstyle hnamed]).bind fun i j hij => ?_
  refine (tell_related _ _).bind fun _ _ _ => .pure ⟨rfl, rfl, .nil, h.annotations, ?_⟩
  rintro (hnamed | hmethod)
  · rw [hij hnamed]
    exact ⟨rfl, rfl⟩
  · cases hmethod

theorem setter_related (hstyle : named → a.style = b.style) (hR : R [] []) (type : String)
    {p q : Property} (h : p.Alike R q) :
    Related (Progress.Alike named) (Progress.Alike named) (Declaration.Alike R named)
      (setter a type p) (setter b type q) := by
  unfold setter
  rw [h.name]
  refine (claim_related .property q.name fun hnamed => by rw [hstyle hnamed]).bind fun i j hij => ?_
  have hvalue : (setterParameter type).Alike R (setterParameter type) := ⟨rfl, rfl, rfl, hR⟩
  refine (tell_related _ _).bind fun _ _ _ =>
    .pure ⟨rfl, rfl, .cons hvalue .nil, h.annotations, ?_⟩
  rintro (hnamed | hmethod)
  · rw [hij hnamed]
    exact ⟨rfl, rfl⟩
  · cases hmethod

/-- An accessor, if the property has it. -/
theorem accessor_related {S : Progress → Progress → Prop} {D : Declaration → Declaration → Prop}
    (c : Bool) {x y : Assembly Declaration} (hx : Related S S D x y) :
    Related S S (List.Forall₂ D) (if c then List.singleton <$> x else pure [])
      (if c then List.singleton <$> y else pure []) := by
  cases c with
  | false => exact .pure List.Forall₂.nil
  | true =>
    rw [if_pos rfl, if_pos rfl, map_eq_pure_bind, map_eq_pure_bind]
    exact hx.bind fun d e h => .pure (List.Forall₂.cons h List.Forall₂.nil)

theorem property_related (hcontext : a.context = b.context) (hstyle : named → a.style = b.style)
    (hR : R [] []) {p q : Property} (h : p.Alike R q) :
    Related (Progress.Alike named) (Progress.Alike named)
      (List.Forall₂ (Declaration.Alike R named)) (property a interface p)
      (property b interface q) := by
  rw [property_eq, property_eq, hcontext, h.name, h.signature, h.access]
  refine (rustType_related q.signature).bind ?_
  rintro type _ rfl
  refine (accessor_related _ (getter_related hstyle type h)).bind fun getters getters' hg => ?_
  refine (accessor_related _ (setter_related hstyle hR type h)).bind fun setters setters' hs => ?_
  exact .pure (List.rel_append hg hs)

theorem signal_related (hcontext : a.signalContext = b.signalContext)
    (hstyle : named → a.style = b.style) {s t : Signal} (h : s.Alike R t) :
    Related (Progress.Alike named) (Progress.Alike named) (Declaration.Alike R named)
      (signal a interface s) (signal b interface t) := by
  unfold signal
  rw [hcontext, h.name]
  refine (claim_related .signal t.name fun hnamed => by rw [hstyle hnamed]).bind fun i j hij => ?_
  refine (tell_related _ _).bind fun _ _ _ => ?_
  refine (parameters_related h.arguments _).bind fun ps qs hps =>
    .pure ⟨rfl, rfl, hps, h.annotations, ?_⟩
  rintro (hnamed | hmethod)
  · rw [hij hnamed]
    exact ⟨rfl, rfl⟩
  · cases hmethod

theorem entered_remarks (style : Style) (p : Progress) : (entered style p).remarks = p.remarks := by
  unfold entered
  split <;> rfl

theorem enterSignals_related {style style' : Style} (h : named → style = style') :
    Related (Progress.Alike named) (Progress.Alike named) Eq (enterSignals style)
      (enterSignals style') := by
  intro p p' hp
  refine Or.inr ⟨(), (), _, _, yields_enterSignals.mpr rfl, yields_enterSignals.mpr rfl, rfl, ?_, ?_⟩
  · intro hnamed
    unfold entered
    rw [h hnamed]
    split
    · exact hp.scope hnamed
    · rfl
  · rw [entered_remarks, entered_remarks, hp.remarks]

theorem get_related :
    Related (Progress.Alike named) (Progress.Alike named) (Progress.Alike named) get get :=
  fun p p' hp => Or.inr ⟨p, p', p, p', yields_get.mpr ⟨rfl, rfl⟩, yields_get.mpr ⟨rfl, rfl⟩, hp, hp⟩

/-- **Two runs through interfaces that are alike.** -/
theorem interface_related (h : a.SameContexts b) (hstyle : named → a.style = b.style) (hR : R [] [])
    {i j : Interface} (hij : i.Alike R j) :
    Related (Progress.Alike True) (Progress.Alike named) (Trait.Alike R named)
      (Assembly.interface a i) (Assembly.interface b j) := by
  have hmethods : Related (Progress.Alike True) (Progress.Alike True)
      (List.Forall₂ (Declaration.Alike R named)) (i.methods.mapM (method a j.name))
      (j.methods.mapM (method b j.name)) :=
    Related.mapM (fun _ _ hmn => method_related h.context hmn) hij.methods
  have hproperties : Related (Progress.Alike named) (Progress.Alike named)
      (List.Forall₂ (List.Forall₂ (Declaration.Alike R named)))
      (i.properties.mapM (property a j.name)) (j.properties.mapM (property b j.name)) :=
    Related.mapM (fun _ _ hpq => property_related h.context hstyle hR hpq) hij.properties
  have hsignals : Related (Progress.Alike named) (Progress.Alike named)
      (List.Forall₂ (Declaration.Alike R named)) (i.signals.mapM (signal a j.name))
      (j.signals.mapM (signal b j.name)) :=
    Related.mapM (fun _ _ hst => signal_related h.signalContext hstyle hst) hij.signals
  unfold Assembly.interface
  rw [hij.name]
  refine hmethods.bind fun methods methods' hm => ?_
  -- from here on the identifiers may differ, so that the scopes may do so too
  refine Related.of_closer (S := Progress.Alike named) ?_ fun p p' hp =>
    ⟨fun _ => hp.scope trivial, hp.remarks⟩
  refine hproperties.bind fun accessors accessors' ha => ?_
  refine (enterSignals_related hstyle).bind fun _ _ _ => ?_
  refine hsignals.bind fun signals signals' hs => ?_
  refine get_related.bind fun p p' hp => (tell_related _ _).bind fun _ _ _ => ?_
  exact .pure ⟨rfl, List.rel_append (List.rel_append hm (List.rel_flatten ha)) hs, hp.remarks,
    hij.annotations⟩

end Steps

end Assembly

/-! ## Whole assemblies -/

namespace Assembler

open Assembly

variable {a b : Assembler}

/-- **Two assemblies of interfaces that are alike** end with the same fault, or with traits that are
alike, and leave the same remarks. -/
theorem assemble_related {R : List Annotation → List Annotation → Prop} {named : Prop}
    (h : a.SameContexts b) (hstyle : named → a.style = b.style) (hR : R [] []) {i j : Interface}
    (hij : i.Alike R j) :
    (a.assemble i).assembler.remarks = (b.assemble j).assembler.remarks ∧
      ((∃ fault, (a.assemble i).result = .error fault ∧ (b.assemble j).result = .error fault) ∨
        ∃ t u, (a.assemble i).result = .ok t ∧ (b.assemble j).result = .ok u ∧
          t.Alike R named u) := by
  unfold Assembler.assemble
  rcases interface_related h hstyle hR hij {} {} ⟨fun _ => rfl, rfl⟩ with
    ⟨fault, q, q', ha, hb, hremarks⟩ | ⟨t, u, q, q', ha, hb, htu, hq⟩
  · unfold Fails at ha hb
    rw [ha, hb]
    exact ⟨hremarks, Or.inl ⟨fault, rfl, rfl⟩⟩
  · unfold Yields at ha hb
    rw [ha, hb]
    exact ⟨hq.remarks, Or.inr ⟨t, u, rfl, rfl, htu⟩⟩

/-- Alike assemblers give the same trait or the same fault, and are left with the same remarks. -/
theorem Alike.assemble (h : a.Alike b) (i : Interface) :
    (a.assemble i).result = (b.assemble i).result ∧
      (a.assemble i).assembler.remarks = (b.assemble i).assembler.remarks := by
  obtain ⟨hremarks, ⟨fault, ha, hb⟩ | ⟨t, u, ha, hb, htu⟩⟩ :=
    assemble_related h.sameContexts (fun _ => h.style) rfl (Interface.Alike.refl (R := Eq)
      (fun _ => rfl) i)
  · exact ⟨ha.trans hb.symm, hremarks⟩
  · rw [ha, hb, htu.eq]
    exact ⟨rfl, hremarks⟩

/-- An assembler is used again as it was, but for the remarks. -/
theorem Alike.after (h : a.Alike b) (i : Interface) : (a.assemble i).assembler.Alike b :=
  ⟨h.style, h.context, h.signalContext⟩

/-- **Interfaces are assembled one by one**: an assembler that goes through several gives what
alike assemblers give for each of them, up to the first that fails. -/
theorem assembleAll_eq (h : a.Alike b) (is : List Interface) :
    (a.assembleAll is).1 = is.mapM fun i => (b.assemble i).result := by
  induction is generalizing a with
  | nil => rfl
  | cons i is ih =>
    rw [assembleAll, List.mapM_cons, ← (h.assemble i).1]
    cases (a.assemble i).result with
    | error fault => rfl
    | ok t =>
      show ((a.assemble i).assembler.assembleAll is).1.map (t :: ·) = _
      rw [ih (h.after i)]
      rfl

end Assembler

end BusTraits
