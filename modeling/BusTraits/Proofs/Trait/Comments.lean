import BusTraits.Proofs.Trait.FunctionLines
import BusTraits.Proofs.Trait.Independence

/-!
# Annotation values stay in their comments

The value of an annotation is any text that somebody put into a document. In the source of a server
it is written in a comment, with its line feeds escaped. So whatever the values are, the source has
the same lines otherwise. Two lists of interfaces that differ in values alone
(`Interface.withoutValues`) are compared by two runs side by side, with the annotations in the same
place as counterparts of each other (`Counterparts`).

* `Interface.alike_of_withoutValues`: such interfaces have the same members, and counterparts as
  annotations;
* `AlikeLines`: two texts whose lines are the same up to what ends a comment, closed under all ways
  in which the text of a trait is put together;
* `Block.group_alike`, `Style.opening_alike`: what annotations do not show in;
* `Declaration.Alike.serverLines`, `Trait.Alike.serverLines`: the lines of traits that are alike;
* **`Style.generateAllInto_values`**: the source for a list of interfaces.
-/

namespace BusTraits

/-! ## Interfaces without values -/

def Annotation.withoutValue (a : Annotation) : Annotation := { a with value := "" }

def Argument.withoutValues (x : Argument) : Argument :=
  { x with annotations := x.annotations.map Annotation.withoutValue }

def Method.withoutValues (m : Method) : Method where
  name := m.name
  arguments := m.arguments.map Argument.withoutValues
  annotations := m.annotations.map Annotation.withoutValue

def Property.withoutValues (p : Property) : Property :=
  { p with annotations := p.annotations.map Annotation.withoutValue }

def Signal.withoutValues (s : Signal) : Signal where
  name := s.name
  arguments := s.arguments.map Argument.withoutValues
  annotations := s.annotations.map Annotation.withoutValue

/-- An interface with the values of all annotations taken away, on whatever part they are. -/
def Interface.withoutValues (i : Interface) : Interface where
  name := i.name
  methods := i.methods.map Method.withoutValues
  properties := i.properties.map Property.withoutValues
  signals := i.signals.map Signal.withoutValues
  annotations := i.annotations.map Annotation.withoutValue

/-! ## All annotations -/

def Method.notes (m : Method) : List Annotation :=
  m.annotations ++ m.arguments.flatMap (·.annotations)

def Signal.notes (s : Signal) : List Annotation :=
  s.annotations ++ s.arguments.flatMap (·.annotations)

/-- The annotations of an interface and of all its parts. -/
def Interface.notes (i : Interface) : List Annotation :=
  i.annotations ++ (i.methods.flatMap Method.notes ++
    (i.properties.flatMap (·.annotations) ++ i.signals.flatMap Signal.notes))

/-- Annotations with the same name and in the same place of two lists of interfaces. -/
structure Counterparts (is js : List Interface) (a b : Annotation) : Prop where
  name : a.name = b.name
  place : (a, b) ∈ (is.flatMap Interface.notes).zip (js.flatMap Interface.notes)

/-- Lists of annotations that are the same without their values have the same length. -/
theorem length_eq_of_map_withoutValue {as bs : List Annotation}
    (h : as.map Annotation.withoutValue = bs.map Annotation.withoutValue) :
    as.length = bs.length := by
  rw [← List.length_map (f := Annotation.withoutValue), h, List.length_map]

section Parts

variable {α : Type} {w : α → α} {g : α → List Annotation} {xs ys : List α}

/-- Values may be taken away from the parts or from the annotations on them. -/
theorem flatMap_withoutValues (hw : ∀ x, g (w x) = (g x).map Annotation.withoutValue)
    (xs : List α) : (xs.map w).flatMap g = (xs.flatMap g).map Annotation.withoutValue := by
  rw [List.flatMap_map, List.map_flatMap]
  exact List.flatMap_congr fun x _ => hw x

theorem length_eq_of_withoutValues (hw : ∀ x, g (w x) = (g x).map Annotation.withoutValue)
    (h : xs.map w = ys.map w) : (xs.flatMap g).length = (ys.flatMap g).length := by
  refine length_eq_of_map_withoutValue ?_
  rw [← flatMap_withoutValues hw, h, flatMap_withoutValues hw]

/-- Parts that differ in values alone are compared by the annotations on all of them. -/
theorem forall₂_of_withoutValues {S : Annotation → Annotation → Prop} {U : α → α → Prop}
    (hw : ∀ x, g (w x) = (g x).map Annotation.withoutValue)
    (hU : ∀ x y, w x = w y → List.Forall₂ S (g x) (g y) → U x y) (h : xs.map w = ys.map w)
    (hS : List.Forall₂ S (xs.flatMap g) (ys.flatMap g)) : List.Forall₂ U xs ys := by
  refine forall₂_of_flatMap (fun x y hxy => ?_) hU (forall₂_map_eq_iff.mpr h) hS
  refine length_eq_of_map_withoutValue ?_
  rw [← hw, hxy, hw]

end Parts

theorem Argument.annotations_withoutValues (x : Argument) :
    x.withoutValues.annotations = x.annotations.map Annotation.withoutValue := rfl

theorem Property.annotations_withoutValues (p : Property) :
    p.withoutValues.annotations = p.annotations.map Annotation.withoutValue := rfl

theorem Method.notes_withoutValues (m : Method) :
    m.withoutValues.notes = m.notes.map Annotation.withoutValue := by
  unfold notes withoutValues
  rw [List.map_append, ← flatMap_withoutValues Argument.annotations_withoutValues]

theorem Signal.notes_withoutValues (s : Signal) :
    s.withoutValues.notes = s.notes.map Annotation.withoutValue := by
  unfold notes withoutValues
  rw [List.map_append, ← flatMap_withoutValues Argument.annotations_withoutValues]

theorem Interface.notes_withoutValues (i : Interface) :
    i.withoutValues.notes = i.notes.map Annotation.withoutValue := by
  unfold notes withoutValues
  rw [List.map_append, List.map_append, List.map_append,
    ← flatMap_withoutValues Method.notes_withoutValues,
    ← flatMap_withoutValues Property.annotations_withoutValues,
    ← flatMap_withoutValues Signal.notes_withoutValues]

/-! ## Alike but for values -/

section Alike

variable {S : Annotation → Annotation → Prop}

theorem Argument.alike_of_withoutValues {x y : Argument} (h : x.withoutValues = y.withoutValues)
    (hnotes : List.Forall₂ S x.annotations y.annotations) :
    x.Alike (List.Forall₂ S) y ∧ x.direction = y.direction := by
  obtain ⟨hname, hsignature, hdirection, -⟩ := Argument.mk.inj h
  exact ⟨⟨hname, hsignature, hnotes⟩, hdirection⟩

theorem Method.alike_of_withoutValues {m n : Method} (h : m.withoutValues = n.withoutValues)
    (hnotes : List.Forall₂ S m.notes n.notes) : m.Alike (List.Forall₂ S) n := by
  obtain ⟨hname, harguments, hannotations⟩ := Method.mk.inj h
  obtain ⟨hown, hparts⟩ :=
    (forall₂_append_iff (length_eq_of_map_withoutValue hannotations)).mp hnotes
  have hall := forall₂_of_withoutValues Argument.annotations_withoutValues
    (fun _ _ => Argument.alike_of_withoutValues) harguments hparts
  have hgoing : ∀ d, List.Forall₂
      (fun x y => x.Alike (List.Forall₂ S) y ∧ x.direction = y.direction)
      (m.arguments.filter (·.direction = d)) (n.arguments.filter (·.direction = d)) := fun d =>
    List.rel_filter (fun x y hxy => by simp [hxy.2]) hall
  exact ⟨hname, (hgoing .input).imp fun _ _ h => h.1,
    (hgoing .output).imp fun _ _ h => h.1.signature, hown⟩

theorem Property.alike_of_withoutValues {p q : Property} (h : p.withoutValues = q.withoutValues)
    (hnotes : List.Forall₂ S p.annotations q.annotations) : p.Alike (List.Forall₂ S) q := by
  obtain ⟨hname, hsignature, haccess, -⟩ := Property.mk.inj h
  exact ⟨hname, hsignature, haccess, hnotes⟩

theorem Signal.alike_of_withoutValues {s t : Signal} (h : s.withoutValues = t.withoutValues)
    (hnotes : List.Forall₂ S s.notes t.notes) : s.Alike (List.Forall₂ S) t := by
  obtain ⟨hname, harguments, hannotations⟩ := Signal.mk.inj h
  obtain ⟨hown, hparts⟩ :=
    (forall₂_append_iff (length_eq_of_map_withoutValue hannotations)).mp hnotes
  have hall := forall₂_of_withoutValues Argument.annotations_withoutValues
    (fun _ _ => Argument.alike_of_withoutValues) harguments hparts
  exact ⟨hname, hall.imp fun _ _ h => h.1, hown⟩

/-- **Interfaces that differ in values alone** have the same members up to counterparts. -/
theorem Interface.alike_of_withoutValues {i j : Interface}
    (h : i.withoutValues = j.withoutValues) (hnotes : List.Forall₂ S i.notes j.notes) :
    i.Alike (List.Forall₂ S) j := by
  obtain ⟨hname, hmethods, hproperties, hsignals, hannotations⟩ := Interface.mk.inj h
  obtain ⟨hown, hparts⟩ :=
    (forall₂_append_iff (length_eq_of_map_withoutValue hannotations)).mp hnotes
  obtain ⟨hmethodNotes, hparts⟩ := (forall₂_append_iff
    (length_eq_of_withoutValues Method.notes_withoutValues hmethods)).mp hparts
  obtain ⟨hpropertyNotes, hsignalNotes⟩ := (forall₂_append_iff
    (length_eq_of_withoutValues Property.annotations_withoutValues hproperties)).mp hparts
  exact ⟨hname,
    forall₂_of_withoutValues Method.notes_withoutValues
      (fun _ _ => Method.alike_of_withoutValues) hmethods hmethodNotes,
    forall₂_of_withoutValues Property.annotations_withoutValues
      (fun _ _ => Property.alike_of_withoutValues) hproperties hpropertyNotes,
    forall₂_of_withoutValues Signal.notes_withoutValues
      (fun _ _ => Signal.alike_of_withoutValues) hsignals hsignalNotes, hown⟩

/-- The counterparts of two lists are in the same order. -/
theorem counterparts_of_withoutValues {is js : List Interface}
    (h : is.map Interface.withoutValues = js.map Interface.withoutValues) :
    List.Forall₂ (Counterparts is js) (is.flatMap Interface.notes)
      (js.flatMap Interface.notes) := by
  have hnotes : (is.flatMap Interface.notes).map Annotation.withoutValue =
      (js.flatMap Interface.notes).map Annotation.withoutValue := by
    rw [← flatMap_withoutValues Interface.notes_withoutValues, h,
      flatMap_withoutValues Interface.notes_withoutValues]
  obtain ⟨hlength, hsame⟩ := List.forall₂_iff_zip.mp (forall₂_map_eq_iff.mpr hnotes)
  refine List.forall₂_iff_zip.mpr ⟨hlength, fun hab => ?_⟩
  obtain ⟨hname, -⟩ := Annotation.mk.inj (hsame hab)
  exact ⟨hname, hab⟩

end Alike

/-! ## Lines -/

/-- Lines that are the same, or that end the comments of annotations related by `S`: with an equals
sign and the value in quotes, its line feeds escaped. -/
def SameButValue (S : Annotation → Annotation → Prop) (line line' : List Char) : Prop :=
  line = line' ∨ ∃ a b before, S a b ∧ line = before ++ a.rest.toList ∧
    line' = before ++ b.rest.toList

/-- Texts with such lines. -/
def AlikeLines (S : Annotation → Annotation → Prop) (text text' : List Char) : Prop :=
  List.Forall₂ (SameButValue S) (text.splitOn '\n') (text'.splitOn '\n')

/-- Texts that are alike one by one. -/
def AlikeTexts (S : Annotation → Annotation → Prop) : List String → List String → Prop :=
  List.Forall₂ fun text text' => AlikeLines S text.toList text'.toList

section Lines

variable {S : Annotation → Annotation → Prop} {text text' : List Char} {ls ls' : List String}

theorem SameButValue.cons {line line' : List Char} (h : SameButValue S line line') (c : Char) :
    SameButValue S (c :: line) (c :: line') := by
  rcases h with rfl | ⟨a, b, before, hab, rfl, rfl⟩
  · exact Or.inl rfl
  · exact Or.inr ⟨a, b, c :: before, hab, rfl, rfl⟩

theorem AlikeLines.refl (text : List Char) : AlikeLines S text text :=
  List.forall₂_same.mpr fun _ _ => Or.inl rfl

/-- The same text may stand in front of both. -/
theorem AlikeLines.prepend (h : AlikeLines S text text') (before : List Char) :
    AlikeLines S (before ++ text) (before ++ text') := by
  induction before with
  | nil => exact h
  | cons c before ih =>
    unfold AlikeLines List.splitOn at ih ⊢
    rw [List.cons_append, List.cons_append, List.splitOnP_cons_eq_if_modifyHead,
      List.splitOnP_cons_eq_if_modifyHead]
    by_cases hc : c = '\n'
    · rw [if_pos (by simpa using hc), if_pos (by simpa using hc)]
      exact .cons (Or.inl rfl) ih
    · rw [if_neg (by simpa using hc), if_neg (by simpa using hc)]
      -- the character goes to the first line
      generalize List.splitOnP (· == '\n') (before ++ text) = lines at ih ⊢
      generalize List.splitOnP (· == '\n') (before ++ text') = lines' at ih ⊢
      cases ih with
      | nil => exact .nil
      | cons hline hrest => exact .cons (hline.cons c) hrest

/-- **The ends of two comments**, after the same text. No value brings another line. -/
theorem AlikeLines.comment {a b : Annotation} (h : S a b) (before : List Char) :
    AlikeLines S (before ++ a.rest.toList) (before ++ b.rest.toList) := by
  refine AlikeLines.prepend ?_ before
  unfold AlikeLines
  rw [List.splitOn_eq_singleton a.rest_closes.1, List.splitOn_eq_singleton b.rest_closes.1]
  have hends : SameButValue S a.rest.toList b.rest.toList :=
    Or.inr ⟨a, b, [], h, (List.nil_append _).symm, (List.nil_append _).symm⟩
  exact .cons hends .nil

/-- Two texts with a line feed between them. -/
theorem AlikeLines.append {u u' : List Char} (h : AlikeLines S text text') (hu : AlikeLines S u u') :
    AlikeLines S (text ++ '\n' :: u) (text' ++ '\n' :: u') := by
  unfold AlikeLines at h hu ⊢
  rw [List.splitOn_append_cons_self, List.splitOn_append_cons_self]
  exact List.rel_append h hu

theorem AlikeTexts.refl (ls : List String) : AlikeTexts S ls ls :=
  List.forall₂_same.mpr fun _ _ => .refl _

theorem AlikeTexts.append {ms ms' : List String} (h : AlikeTexts S ls ls')
    (hm : AlikeTexts S ms ms') : AlikeTexts S (ls ++ ms) (ls' ++ ms') :=
  List.rel_append h hm

theorem AlikeTexts.intercalate (h : AlikeTexts S ls ls') :
    AlikeLines S ("\n".intercalate ls).toList ("\n".intercalate ls').toList := by
  induction h with
  | nil => exact .refl _
  | @cons l l' ls ls' hl hrest ih =>
    cases hrest with
    | nil => exact hl
    | cons =>
      rw [String.intercalate_cons_cons, String.intercalate_cons_cons]
      simpa using hl.append ih

theorem AlikeTexts.sourceText (h : AlikeTexts S ls ls') :
    AlikeLines S (sourceText ls).toList (sourceText ls').toList := by
  unfold BusTraits.sourceText
  simpa using h.intercalate.append (.refl [])

end Lines

/-! ## What annotations do not show in -/

section Unaffected

variable {S : Annotation → Annotation → Prop}

namespace Declaration

variable {d e : Declaration}

theorem Alike.serverFunction_eq (h : d.Alike (List.Forall₂ S) True e) (receiver type : String) :
    d.serverFunction receiver type = e.serverFunction receiver type := by
  unfold serverFunction
  rw [(h.names (Or.inl trivial)).1, Parameter.listAfter_of_alike h.parameters]

theorem Alike.accessorFunction_eq (h : d.Alike (List.Forall₂ S) True e) :
    d.accessorFunction = e.accessorFunction := by
  unfold accessorFunction
  simp only [h.role, h.serverFunction_eq]

theorem Alike.emitterFunction_eq (h : d.Alike (List.Forall₂ S) True e) :
    d.emitterFunction = e.emitterFunction := by
  unfold emitterFunction
  rw [(h.names (Or.inl trivial)).1, Parameter.listAfter_of_alike h.parameters]

theorem Alike.wireNameComment_eq (h : d.Alike (List.Forall₂ S) True e) :
    d.wireNameComment = e.wireNameComment := by
  unfold wireNameComment
  rw [(h.names (Or.inl trivial)).2, h.wireName]

theorem Alike.signalBody_eq (h : d.Alike (List.Forall₂ S) True e) :
    d.signalBody = e.signalBody := by
  have hparameters := h.parameters
  unfold signalBody
  generalize d.parameters = ps at hparameters ⊢
  generalize e.parameters = qs at hparameters ⊢
  -- a single name is followed by a comma, so that there are three cases
  cases hparameters with
  | nil => rfl
  | cons hp hrest =>
    cases hrest with
    | nil => simp only [hp.identifier]
    | cons hp' hrest =>
      have hnames := forall₂_map_eq_iff.mp (hrest.imp fun _ _ h => Parameter.Alike.identifier h)
      simp only [List.map_cons, hp.identifier, hp'.identifier, hnames]

end Declaration

/-- Blocks of the same kind with declarations that are alike. -/
inductive Block.Alike (S : Annotation → Annotation → Prop) : Block → Block → Prop where
  | single {d e : Declaration} (h : d.Alike (List.Forall₂ S) True e) :
    Block.Alike S (.single d) (.single e)
  | accessors {g g' s s' : Declaration} (hg : g.Alike (List.Forall₂ S) True g')
    (hs : s.Alike (List.Forall₂ S) True s') : Block.Alike S (.accessors g s) (.accessors g' s')

theorem Block.isPair_eq {d d' e e' : Declaration} (hd : d.Alike (List.Forall₂ S) True d')
    (he : e.Alike (List.Forall₂ S) True e') : isPair d e = isPair d' e' := by
  unfold isPair Declaration.isGetter Declaration.isSetter
  rw [hd.role, he.role, hd.wireName, he.wireName]

/-- The same accessors stand together. -/
theorem Block.group_alike : ∀ {ds es : List Declaration},
    List.Forall₂ (Declaration.Alike (List.Forall₂ S) True) ds es →
      List.Forall₂ (Block.Alike S) (group ds) (group es)
  | _, _, .nil => .nil
  | _, _, .cons hd .nil => .cons (.single hd) .nil
  | _, _, .cons hd (.cons he hrest) => by
    rw [group, group, Block.isPair_eq hd he]
    split
    · exact .cons (.accessors hd he) (Block.group_alike hrest)
    · exact .cons (.single hd) (Block.group_alike (.cons he hrest))

/-- What has to be in front does not depend on annotations. -/
theorem Style.opening_alike {R : List Annotation → List Annotation → Prop} (style : Style)
    {is js : List Interface} (h : List.Forall₂ (Interface.Alike R) is js) :
    style.opening is = style.opening js := by
  have hsignals : (∃ i ∈ is, i.signals ≠ []) ↔ ∃ j ∈ js, j.signals ≠ [] := by
    induction h with
    | nil => simp
    | @cons i j is js hij _ ih =>
      have hfirst : i.signals ≠ [] ↔ j.signals ≠ [] := by
        rw [← List.length_pos_iff, ← List.length_pos_iff, hij.signals.length_eq]
      simp only [List.mem_cons, exists_eq_or_imp, hfirst, ih]
  unfold opening
  simp only [hsignals]

end Unaffected

/-! ## The lines of a trait -/

section Server

variable {S : Annotation → Annotation → Prop} (hS : ∀ a b, S a b → a.name = b.name)

include hS

/-- The comments for annotations, after the same words. -/
theorem comments_alike (before : String) {as bs : List Annotation} (h : List.Forall₂ S as bs) :
    AlikeTexts S (as.map fun a => before ++ a.comment) (bs.map fun b => before ++ b.comment) := by
  refine List.forall₂_map_left_iff.mpr (List.forall₂_map_right_iff.mpr (h.imp fun a b hab => ?_))
  have hline : ∀ a : Annotation, (before ++ a.comment).toList =
      (before ++ "[annotation] " ++ a.name ++ " ").toList ++ a.rest.toList := fun a => by
    rw [a.comment_eq, ← String.toList_append]
    simp only [String.append_assoc]
  rw [hline, hline, hS a b hab]
  exact .comment hab _

theorem annotationComments_alike (indent : String) {as bs : List Annotation}
    (h : List.Forall₂ S as bs) :
    AlikeTexts S (annotationComments indent as) (annotationComments indent bs) :=
  comments_alike hS (indent ++ "/// ") h

theorem Parameter.comments_alike (indent : String) {ps qs : List Parameter}
    (h : List.Forall₂ (Parameter.Alike (List.Forall₂ S)) ps qs) :
    AlikeTexts S (Parameter.comments indent ps) (Parameter.comments indent qs) := by
  refine List.rel_flatMap h fun p q hpq => ?_
  have hname : p.commentName = q.commentName := by
    unfold Parameter.commentName
    rw [hpq.wireName]
  rw [hname]
  exact BusTraits.comments_alike hS _ hpq.annotations

namespace Declaration

variable {d e : Declaration}

theorem Alike.propertyLines (h : d.Alike (List.Forall₂ S) True e) (functions : List String) :
    AlikeTexts S (d.propertyLines functions) (e.propertyLines functions) := by
  unfold Declaration.propertyLines
  rw [h.wireName]
  exact (((AlikeTexts.refl _).append (annotationComments_alike hS _ h.annotations)).append
    (.refl functions)).append (.refl _)

/-- **The lines of a declaration** that is written by itself. -/
theorem Alike.serverLines (h : d.Alike (List.Forall₂ S) True e) :
    AlikeTexts S d.serverLines e.serverLines := by
  have hnotes := annotationComments_alike hS "    " h.annotations
  unfold Declaration.serverLines
  rw [h.role, h.wireNameComment_eq, h.accessorFunction_eq, h.emitterFunction_eq, h.wireName,
    h.signalBody_eq]
  cases e.role with
  | method result =>
    simp only [h.serverFunction_eq]
    exact ((hnotes.append (Parameter.comments_alike hS _ h.parameters)).append (.refl _)).append
      (.refl _)
  | getter type | setter => exact h.propertyLines hS _
  | signal => exact ((hnotes.append (.refl _)).append (.refl _)).append (.refl _)

end Declaration

theorem Block.Alike.lines {b c : Block} (h : b.Alike S c) : AlikeTexts S b.lines c.lines := by
  cases h with
  | single h => exact h.serverLines hS
  | accessors hg hs =>
    simp only [Block.lines, hg.accessorFunction_eq, hs.accessorFunction_eq]
    exact hg.propertyLines hS _

/-- **The lines of a trait.** -/
theorem Trait.Alike.serverLines {t u : Trait} (h : t.Alike (List.Forall₂ S) True u) :
    AlikeTexts S t.serverLines u.serverLines := by
  have hname : t.name = u.name := by
    unfold Trait.name
    rw [h.interface]
  have hblocks : AlikeTexts S ((Block.group t.declarations).flatMap Block.lines)
      ((Block.group u.declarations).flatMap Block.lines) :=
    List.rel_flatMap (Block.group_alike h.declarations) fun _ _ hb => hb.lines hS
  unfold Trait.serverLines
  rw [hname]
  exact (((annotationComments_alike hS _ h.annotations).append (.refl _)).append hblocks).append
    (.refl _)

end Server

/-! ## The source of a server -/

namespace Style

variable {is js : List Interface}

/-- Two sources with the same remarks and the same lines up to what ends a comment. -/
structure SameSource (S : Annotation → Annotation → Prop) (s s' : Source) : Prop where
  text : AlikeLines S s.text.toList s'.text.toList
  remarks : s.remarks = s'.remarks

/-- The source for one interface. -/
theorem generate_alike {S : Annotation → Annotation → Prop} (hS : ∀ a b, S a b → a.name = b.name)
    {i j : Interface} (h : i.Alike (List.Forall₂ S) j) :
    (∃ fault, Style.server.generate i = .error fault ∧ Style.server.generate j = .error fault) ∨
      ∃ s s', Style.server.generate i = .ok s ∧ Style.server.generate j = .ok s' ∧
        SameSource S s s' := by
  have hsame : (Style.server.assembler).SameContexts Style.server.assembler := ⟨rfl, rfl⟩
  unfold generate
  obtain ⟨-, ⟨fault, hi, hj⟩ | ⟨t, u, hi, hj, htu⟩⟩ :=
    Assembler.assemble_related hsame (fun _ : True => rfl) .nil h
  · rw [hi, hj]
    exact Or.inl ⟨fault, rfl, rfl⟩
  · rw [hi, hj]
    exact Or.inr ⟨_, _, rfl, rfl, (htu.serverLines hS).sourceText, htu.remarks⟩

/-- The sources for several interfaces. -/
theorem generateAll_alike {S : Annotation → Annotation → Prop}
    (hS : ∀ a b, S a b → a.name = b.name)
    (h : List.Forall₂ (Interface.Alike (List.Forall₂ S)) is js) (verbose : Bool) :
    (∃ fault, (Style.server.generateAll is verbose).1 = .error fault ∧
      (Style.server.generateAll js verbose).1 = .error fault) ∨
      ∃ s s', (Style.server.generateAll is verbose).1 = .ok s ∧
        (Style.server.generateAll js verbose).1 = .ok s' ∧ SameSource S s s' := by
  rw [generateAll_eq, generateAll_eq, opening_alike _ h]
  rcases mapM_related (fun _ _ hij => generate_alike hS hij) h with
    ⟨fault, hi, hj⟩ | ⟨ss, ss', hi, hj, hsources⟩
  · rw [hi, hj]
    exact Or.inl ⟨fault, rfl, rfl⟩
  · rw [hi, hj]
    have htexts : AlikeTexts S (ss.map (·.text)) (ss'.map (·.text)) :=
      List.forall₂_map_left_iff.mpr
        (List.forall₂_map_right_iff.mpr (hsources.imp fun _ _ hs => hs.text))
    have hremarks : ss.flatMap (·.remarks) = ss'.flatMap (·.remarks) := by
      rw [List.flatMap_def, List.flatMap_def,
        forall₂_map_eq_iff.mp (hsources.imp fun _ _ hs => hs.remarks)]
    refine Or.inr ⟨_, _, rfl, rfl, ?_, hremarks⟩
    rw [String.toList_append, String.toList_append]
    exact htexts.intercalate.prepend _

/-- **Annotation values stay in their comments.** For two lists of interfaces that differ in nothing
but the values of annotations, the calls for a server fail with the same fault, or add the same
messages and give texts with as many lines. Where a line is not the same in both, it ends in both
with the values of two counterparts, between quotes and with the line feeds escaped. -/
theorem generateAllInto_values
    (h : is.map Interface.withoutValues = js.map Interface.withoutValues) (verbose : Bool)
    (messages : List String) :
    (∃ fault,
      (Style.server.generateAllInto is verbose).calledWith messages = (.error fault, messages) ∧
      (Style.server.generateAllInto js verbose).calledWith messages = (.error fault, messages)) ∨
    ∃ text text' added,
      (Style.server.generateAllInto is verbose).calledWith messages =
        (.ok text, messages ++ added) ∧
      (Style.server.generateAllInto js verbose).calledWith messages =
        (.ok text', messages ++ added) ∧
      List.Forall₂ (SameButValue (Counterparts is js)) (text.toList.splitOn '\n')
        (text'.toList.splitOn '\n') := by
  have halike : List.Forall₂ (Interface.Alike (List.Forall₂ (Counterparts is js))) is js :=
    forall₂_of_withoutValues Interface.notes_withoutValues
      (fun _ _ => Interface.alike_of_withoutValues) h (counterparts_of_withoutValues h)
  rw [generateAllInto_calledWith, generateAllInto_calledWith]
  rcases generateAll_alike (fun _ _ hab => hab.name) halike verbose with
    ⟨fault, hi, hj⟩ | ⟨s, s', hi, hj, hsame⟩
  · rw [hi, hj]
    exact Or.inl ⟨fault, rfl, rfl⟩
  · rw [hi, hj]
    refine Or.inr ⟨s.text, s'.text, s.remarks.map (·.message), rfl, ?_, hsame.text⟩
    rw [hsame.remarks]
    rfl

/-- An interface with the same value on every part, once under a name that has a line feed. -/
def vase (value : String) : Interface where
  name := "org.example.Vase"
  methods := [⟨"Fill", [⟨some "Water", "?", .input, [⟨"unit", value⟩]⟩],
    [⟨"since\nwhen", value⟩]⟩]
  signals := [⟨"Broken", [⟨none, "u", .output, [⟨"note", value⟩]⟩], [⟨"note", value⟩]⟩]
  annotations := [⟨"kind", value⟩]

/-- A value that would end its comment and go on with a function. -/
def vaseValue : String := "\"\n    fn hidden(&self);\n/// \""

/-- The source of a server for the vase, with the value as it is written. -/
def vaseText (written : String) : String :=
  "use zbus::object_server::SignalEmitter;\n\n/// [annotation] kind = \"" ++ written ++
    "\"\npub trait VaseServer \x7b\n    /// [annotation] since\nwhen = \"" ++ written ++
    "\"\n    /// [arg: Water] [annotation] unit = \"" ++ written ++
    "\"\n    fn fill(&mut self, water: zbus::zvariant::Value<'_>) -> zbus::Result<()>;\n\n" ++
    "    /// [annotation] note = \"" ++ written ++
    "\"\n    /// emits Broken with body &(arg,)\n" ++
    "    fn emit_broken<'a>(emitter: &SignalEmitter<'a>, arg: u32) -> " ++
    "impl std::future::Future<Output = zbus::Result<()>> + Send;\n\n\x7d\n"

/-- The function does not get out of the comments. -/
theorem vase_values :
    (Style.server.generateAllInto [vase "clay"]).calledWith ["earlier"] =
      (.ok (vaseText "clay"),
        ["earlier", "Warning: unknown D-Bus type '?' at column 1 of signature '?'"]) ∧
    (Style.server.generateAllInto [vase vaseValue]).calledWith ["earlier"] =
      (.ok (vaseText "\"\\n    fn hidden(&self);\\n/// \""),
        ["earlier", "Warning: unknown D-Bus type '?' at column 1 of signature '?'"]) ∧
    List.Forall₂ (SameButValue (Counterparts [vase "clay"] [vase vaseValue]))
      ((vaseText "clay").toList.splitOn '\n')
      ((vaseText "\"\\n    fn hidden(&self);\\n/// \"").toList.splitOn '\n') := by
  have hplain : (Style.server.generateAllInto [vase "clay"]).calledWith ["earlier"] =
      (.ok (vaseText "clay"),
        ["earlier", "Warning: unknown D-Bus type '?' at column 1 of signature '?'"]) := by
    decide +kernel
  have hhostile : (Style.server.generateAllInto [vase vaseValue]).calledWith ["earlier"] =
      (.ok (vaseText "\"\\n    fn hidden(&self);\\n/// \""),
        ["earlier", "Warning: unknown D-Bus type '?' at column 1 of signature '?'"]) := by
    decide +kernel
  have hsame : [vase "clay"].map Interface.withoutValues =
      [vase vaseValue].map Interface.withoutValues := rfl
  refine ⟨hplain, hhostile, ?_⟩
  rcases generateAllInto_values hsame false ["earlier"] with
    ⟨fault, hfault, -⟩ | ⟨text, text', added, hi, hj, hlines⟩
  · rw [hplain] at hfault
    cases hfault
  · rw [hplain, Prod.mk.injEq, Except.ok.injEq] at hi
    rw [hhostile, Prod.mk.injEq, Except.ok.injEq] at hj
    rw [hi.1, hj.1]
    exact hlines

end Style

end BusTraits
