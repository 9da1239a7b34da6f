import BusTraits.Proofs.Introspection.Written
import Mathlib.Logic.Relation

/-!
# Edits that make no difference

What the reader looks at in an element depends on where the element stands (`Part`): outside of all
interfaces it looks for interfaces alone, at any depth. Inside one it looks at a few attributes and
at the children with a few tags. Everything else may be edited (`Edit`). Elements with other tags
come and go, also as a node around others, and children change places as long as those with the same
tag keep their order. Outside of interfaces the interfaces have to keep theirs.

An interface inside another one would be inside and outside at the same time, so there must be none
(`Flat`). Edits keep it so.

* `Looks.reading_eq`: what is read of a part depends on nothing but what the reader looks at;
* `Edit.inside`, `Edit.outside`: one edit;
* **`ofRoot_edited`**: any number of edits;
* `shelf_swapped`: the interfaces below a method that is part of none do depend on the order of its
  children.
-/

namespace BusTraits.Introspection

open Markup (Element)

/-! ## Parts of a document -/

/-- What an element is to the reader. -/
inductive Part where
  /-- It is neither an interface nor inside one. -/
  | outside
  | interface
  /-- It is a method or a signal of an interface. -/
  | member
  | property
  | argument
  /-- It is an annotation. -/
  | note
  /-- It is inside an interface, where nothing is looked for. -/
  | ignored
  deriving DecidableEq

namespace Part

/-- The tags of the children that are looked at in a part, and what these children are. -/
def children : Part → List (String × Part)
  | outside => [("interface", interface)]
  | interface =>
    [("method", member), ("property", property), ("signal", member), ("annotation", note)]
  | member => [("arg", argument), ("annotation", note)]
  | property | argument => [("annotation", note)]
  | note | ignored => []

/-- What a child with a tag is. -/
def child (part : Part) (tag : String) : Part :=
  (part.children.lookup tag).getD (if part = outside then outside else ignored)

/-- The attributes that are looked at in a part. -/
def keys : Part → List String
  | outside | ignored => []
  | interface | member => ["name"]
  | property => ["name", "access", "type"]
  | argument => ["name", "direction", "type"]
  | note => ["name", "value"]

theorem child_of_mem {part : Part} : ∀ entry ∈ part.children, part.child entry.1 = entry.2 := by
  cases part <;> decide

/-- Nothing inside an interface is outside of it. -/
theorem child_ne_outside {part : Part} (h : part ≠ outside) (tag : String) :
    part.child tag ≠ outside := by
  unfold child
  rw [if_neg h]
  cases hkind : part.children.lookup tag with
  | none => exact fun h => nomatch h
  | some kind =>
    have hall : ∀ entry ∈ part.children, entry.2 ≠ outside := by
      cases part <;> decide
    obtain ⟨before, after, heq, -⟩ := List.lookup_eq_some_iff.mp hkind
    exact hall (tag, kind) (by simp [heq])

theorem child_interface : outside.child "interface" = interface := rfl

theorem child_outside {tag : String} (h : tag ≠ "interface") : outside.child tag = outside := by
  unfold child children
  rw [List.lookup_cons, beq_false_of_ne h]
  rfl

end Part

/-! ## Readings -/

/-- The same is read of two elements as a part, whatever is around it. -/
def SameReading (part : Part) (e e' : Element) : Prop :=
  match part with
  | .interface => interface e = interface e'
  | .member =>
    required .document e "name" = required .document e' "name" ∧
      (∀ place usual, arguments place usual e = arguments place usual e') ∧
      annotations e = annotations e'
  | .property => ∀ i, property i e = property i e'
  | .argument => ∀ place usual, argument place usual e = argument place usual e'
  | .note => e.attribute? "name" = e'.attribute? "name" ∧
    e.attribute? "value" = e'.attribute? "value"
  | .outside | .ignored => True

/-- Two elements are the same as far as the reader looks at them. -/
structure Looks (part : Part) (e e' : Element) : Prop where
  tag : e.tag = e'.tag
  attributes : ∀ key ∈ part.keys, e.attribute? key = e'.attribute? key
  children : ∀ entry ∈ part.children,
    List.Forall₂ (SameReading entry.2) (e.childrenTagged entry.1) (e'.childrenTagged entry.1)

theorem SameReading.refl (part : Part) (e : Element) : SameReading part e e := by
  cases part <;> simp [SameReading]

namespace Looks

variable {part : Part} {e e' : Element}

theorem required_eq (h : Looks part e e') (key : String) (hkey : key ∈ part.keys) (place : Place) :
    required place e key = required place e' key := by
  unfold required
  rw [h.attributes key hkey, h.tag]

theorem annotations_eq (h : Looks part e e') (hpart : ("annotation", .note) ∈ part.children) :
    annotations e = annotations e' := by
  unfold annotations
  exact forall₂_map_eq_iff.mp ((h.children _ hpart).imp fun n n' hn => by rw [hn.1, hn.2])

/-- A run over the children with a tag. -/
theorem mapM_eq {α : Type} (h : Looks part e e') (tag : String) (kind : Part)
    (hpart : (tag, kind) ∈ part.children) {f : Element → Except Fault α}
    (hf : ∀ c c', SameReading kind c c' → f c = f c') :
    (e.childrenTagged tag).mapM f = (e'.childrenTagged tag).mapM f :=
  mapM_eq_of_forall₂ ((h.children _ hpart).imp hf)

theorem argument_eq (h : Looks .argument e e') (place : Place) (usual : Direction) :
    argument place usual e = argument place usual e' := by
  have hdirection : direction place usual e = direction place usual e' := by
    unfold direction
    rw [h.attributes "direction" (by decide)]
  unfold argument
  rw [hdirection, h.required_eq "type" (by decide), h.attributes "name" (by decide),
    h.annotations_eq (by decide)]

theorem property_eq (h : Looks .property e e') (i : String) : property i e = property i e' := by
  unfold property
  rw [h.required_eq "name" (by decide), h.required_eq "access" (by decide),
    h.required_eq "type" (by decide), h.annotations_eq (by decide)]

theorem arguments_eq (h : Looks .member e e') (place : Place) (usual : Direction) :
    arguments place usual e = arguments place usual e' :=
  h.mapM_eq "arg" .argument (by decide) fun _ _ hc => hc place usual

end Looks

/-- Methods and signals are read from the same parts. -/
theorem method_eq {m m' : Element} (h : SameReading .member m m') (i : String) :
    method i m = method i m' := by
  obtain ⟨hname, harguments, hannotations⟩ := h
  unfold method
  simp only [hname, harguments, hannotations]

theorem signal_eq {s s' : Element} (h : SameReading .member s s') (i : String) :
    signal i s = signal i s' := by
  obtain ⟨hname, harguments, hannotations⟩ := h
  unfold signal
  simp only [hname, harguments, hannotations]

theorem Looks.interface_eq {e e' : Element} (h : Looks .interface e e') :
    interface e = interface e' := by
  have hmethods : ∀ i, (e.childrenTagged "method").mapM (method i) =
      (e'.childrenTagged "method").mapM (method i) := fun i =>
    h.mapM_eq "method" .member (by decide) fun _ _ hm => method_eq hm i
  have hproperties : ∀ i, (e.childrenTagged "property").mapM (property i) =
      (e'.childrenTagged "property").mapM (property i) := fun i =>
    h.mapM_eq "property" .property (by decide) fun _ _ hp => hp i
  have hsignals : ∀ i, (e.childrenTagged "signal").mapM (signal i) =
      (e'.childrenTagged "signal").mapM (signal i) := fun i =>
    h.mapM_eq "signal" .member (by decide) fun _ _ hs => signal_eq hs i
  unfold interface
  simp only [h.required_eq "name" (by decide), hmethods, hproperties, hsignals,
    h.annotations_eq (by decide)]

/-- **What is read of a part** depends on nothing but what the reader looks at. -/
theorem Looks.reading_eq {part : Part} {e e' : Element} (h : Looks part e e') :
    SameReading part e e' := by
  cases part with
  | outside | ignored => trivial
  | interface => exact h.interface_eq
  | member =>
    exact ⟨h.required_eq "name" (by decide) _, h.arguments_eq, h.annotations_eq (by decide)⟩
  | property => exact h.property_eq
  | argument => exact h.argument_eq
  | note => exact ⟨h.attributes _ (by decide), h.attributes _ (by decide)⟩

/-! ## Interfaces among the children -/

/-- The interfaces in some elements, at any depth, each before those inside it. -/
def interfacesIn (es : List Element) : List Element :=
  (es.flatMap Element.descendants).filter (·.tag = "interface")

/-- No interface in some elements is inside another one. -/
def Flat (es : List Element) : Prop :=
  ∀ i ∈ interfacesIn es, ∀ c ∈ i.children, Bare c

theorem interfacesIn_append (xs ys : List Element) :
    interfacesIn (xs ++ ys) = interfacesIn xs ++ interfacesIn ys := by
  unfold interfacesIn
  rw [List.flatMap_append, List.filter_append]

theorem interfacesIn_cons (x : Element) (xs : List Element) :
    interfacesIn (x :: xs) = interfacesIn [x] ++ interfacesIn xs :=
  interfacesIn_append [x] xs

theorem interfacesIn_of_bare {es : List Element} (h : ∀ e ∈ es, Bare e) : interfacesIn es = [] := by
  unfold interfacesIn
  refine List.filter_eq_nil_iff.mpr fun d hd => ?_
  obtain ⟨e, he, hd⟩ := List.mem_flatMap.mp hd
  simpa using h e he d hd

theorem interfacesIn_other {e : Element} (h : e.tag ≠ "interface") :
    interfacesIn [e] = interfacesIn e.children := by
  unfold interfacesIn
  rw [List.flatMap_singleton, Element.descendants_eq, List.filter_cons_of_neg (by simpa using h)]

theorem interfacesIn_interface {e : Element} (h : e.tag = "interface") :
    interfacesIn [e] = e :: interfacesIn e.children := by
  unfold interfacesIn
  rw [List.flatMap_singleton, Element.descendants_eq, List.filter_cons_of_pos (by simpa using h)]

theorem interfacesIn_node {root : Element} (htag : root.tag = "node") :
    root.descendants.filter (·.tag = "interface") = interfacesIn root.children := by
  unfold interfacesIn
  rw [Element.descendants_eq, List.filter_cons_of_neg (by rw [htag]; decide)]

/-- An element without interfaces makes no difference. -/
theorem interfacesIn_without {x : Element} (hx : Bare x) (xs ys : List Element) :
    interfacesIn (xs ++ x :: ys) = interfacesIn (xs ++ ys) := by
  rw [interfacesIn_append, interfacesIn_cons, interfacesIn_of_bare (List.forall_mem_singleton.mpr hx),
    List.nil_append, interfacesIn_append]

/-- What is inside a node might as well stand beside it. -/
theorem interfacesIn_wrapped {node : Element} (hnode : node.tag = "node") (xs ys : List Element) :
    interfacesIn (xs ++ node :: ys) = interfacesIn (xs ++ (node.children ++ ys)) := by
  have htag : node.tag ≠ "interface" := by
    rw [hnode]
    decide
  rw [interfacesIn_append, interfacesIn_cons, interfacesIn_other htag, ← interfacesIn_append,
    ← interfacesIn_append]

theorem flat_append {xs ys : List Element} : Flat (xs ++ ys) ↔ Flat xs ∧ Flat ys := by
  unfold Flat
  rw [interfacesIn_append, List.forall_mem_append]

theorem flat_cons {x : Element} {xs : List Element} : Flat (x :: xs) ↔ Flat [x] ∧ Flat xs := by
  rw [← flat_append, List.singleton_append]

/-! ## Edits -/

/-- An element that nothing is read of, wherever it stands. -/
structure Irrelevant (e : Element) : Prop where
  tag : e.tag ∉ ["interface", "method", "property", "signal", "arg", "annotation"]
  bare : Bare e

/-- The children are the same up to the order of those with different tags. -/
def Reordered (cs cs' : List Element) : Prop :=
  ∀ tag, (cs.filter fun c => c.tag = tag) = cs'.filter fun c => c.tag = tag

/-- Two elements differ in their text, and in that the first has the children `cs` and the second
one the children `cs'`. -/
structure Recast (e : Element) (cs : List Element) (e' : Element) (cs' : List Element) : Prop where
  tag : e.tag = e'.tag
  attributes : e.attributes = e'.attributes
  before : e.children = cs
  after : e'.children = cs'

/-- An edit of an element, or of one inside it. -/
inductive Edit : Part → Element → Element → Prop where
  /-- Text is changed, and attributes that are not looked at. -/
  | unread {part : Part} {e e' : Element} (tag : e.tag = e'.tag)
    (attributes : ∀ key ∈ part.keys, e.attribute? key = e'.attribute? key)
    (children : e.children = e'.children) : Edit part e e'
  | insert {part : Part} {e e' x : Element} {xs ys : List Element} (hx : Irrelevant x)
    (h : Recast e (xs ++ ys) e' (xs ++ x :: ys)) : Edit part e e'
  | remove {part : Part} {e e' x : Element} {xs ys : List Element} (hx : Irrelevant x)
    (h : Recast e (xs ++ x :: ys) e' (xs ++ ys)) : Edit part e e'
  /-- Elements outside of interfaces are put into a node. -/
  | wrap {e e' node : Element} {xs ys : List Element} (hnode : node.tag = "node")
    (h : Recast e (xs ++ (node.children ++ ys)) e' (xs ++ node :: ys)) : Edit .outside e e'
  /-- Elements outside of interfaces are taken out of a node. -/
  | unwrap {e e' node : Element} {xs ys : List Element} (hnode : node.tag = "node")
    (h : Recast e (xs ++ node :: ys) e' (xs ++ (node.children ++ ys))) : Edit .outside e e'
  /-- Children with different tags change places. -/
  | reorder {part : Part} {e e' : Element} {cs cs' : List Element} (hcs : Reordered cs cs')
    (horder : part = .outside → interfacesIn cs = interfacesIn cs') (h : Recast e cs e' cs') :
    Edit part e e'
  | nested {part : Part} {e e' c c' : Element} {xs ys : List Element}
    (hc : Edit (part.child c.tag) c c') (h : Recast e (xs ++ c :: ys) e' (xs ++ c' :: ys)) :
    Edit part e e'

theorem Edit.tag_eq {part : Part} {e e' : Element} (h : Edit part e e') : e.tag = e'.tag := by
  cases h with
  | unread htag => exact htag
  | insert _ h | remove _ h | wrap _ h | unwrap _ h | reorder _ _ h | nested _ h => exact h.tag

theorem Reordered.mem_iff {cs cs' : List Element} (h : Reordered cs cs') {c : Element} :
    c ∈ cs ↔ c ∈ cs' := by
  have hmem : ∀ l : List Element, c ∈ l ↔ c ∈ l.filter fun d => d.tag = c.tag := fun l => by
    simp
  rw [hmem cs, h c.tag, ← hmem cs']

/-- Neighbours with different tags may change places. -/
theorem reordered_swap {c d : Element} (h : c.tag ≠ d.tag) (xs ys : List Element) :
    Reordered (xs ++ c :: d :: ys) (xs ++ d :: c :: ys) := by
  intro tag
  rw [List.filter_append, List.filter_append]
  congr 1
  by_cases hc : c.tag = tag
  · have hd : d.tag ≠ tag := fun hd => h (hc.trans hd.symm)
    simp [hc, hd]
  · simp [hc, List.filter_cons]

/-- What stands at the place of a child is looked at as this child is. -/
theorem forall₂_filter_replaced {part : Part} {c c' : Element} (htag : c.tag = c'.tag)
    (h : SameReading (part.child c.tag) c c') (xs ys : List Element) :
    ∀ entry ∈ part.children, List.Forall₂ (SameReading entry.2)
      ((xs ++ c :: ys).filter fun d => d.tag = entry.1)
      ((xs ++ c' :: ys).filter fun d => d.tag = entry.1) := by
  intro entry hentry
  have hrefl : ∀ l : List Element, List.Forall₂ (SameReading entry.2) l l := fun l =>
    List.forall₂_same.mpr fun d _ => .refl entry.2 d
  rw [List.filter_append, List.filter_append]
  refine List.rel_append (hrefl _) ?_
  by_cases hc : c.tag = entry.1
  · rw [hc, Part.child_of_mem entry hentry] at h
    rw [List.filter_cons_of_pos (by simpa using hc),
      List.filter_cons_of_pos (by simpa [← htag] using hc)]
    exact .cons h (hrefl _)
  · rw [List.filter_cons_of_neg (by simpa using hc),
      List.filter_cons_of_neg (by simpa [← htag] using hc)]
    exact hrefl _

theorem Irrelevant.not_tagged {part : Part} {x : Element} (hx : Irrelevant x) :
    ∀ entry ∈ part.children, x.tag ≠ entry.1 := by
  have hall : ∀ entry ∈ part.children,
      entry.1 ∈ ["interface", "method", "property", "signal", "arg", "annotation"] := by
    cases part <;> decide
  rintro entry hentry htag
  exact hx.tag (htag ▸ hall entry hentry)

/-- Children that are looked at stay the same without those that are not. -/
theorem filter_without {part : Part} {x : Element} (hx : Irrelevant x) (xs ys : List Element) :
    ∀ entry ∈ part.children, ((xs ++ x :: ys).filter fun d => d.tag = entry.1) =
      (xs ++ ys).filter fun d => d.tag = entry.1 := by
  intro entry hentry
  rw [List.filter_append, List.filter_append,
    List.filter_cons_of_neg (by simpa using hx.not_tagged entry hentry)]

theorem Recast.looks {part : Part} {e e' : Element} {cs cs' : List Element}
    (h : Recast e cs e' cs') (hcs : ∀ entry ∈ part.children, List.Forall₂ (SameReading entry.2)
      (cs.filter fun d => d.tag = entry.1) (cs'.filter fun d => d.tag = entry.1)) :
    Looks part e e' := by
  refine ⟨h.tag, fun key _ => ?_, fun entry hentry => ?_⟩
  · unfold Element.attribute?
    rw [h.attributes]
  · unfold Element.childrenTagged
    rw [h.before, h.after]
    exact hcs entry hentry

/-- The children that are looked at stay what they are. -/
theorem Recast.looks_of_filter {part : Part} {e e' : Element} {cs cs' : List Element}
    (h : Recast e cs e' cs') (hcs : ∀ entry ∈ part.children,
      (cs.filter fun d => d.tag = entry.1) = cs'.filter fun d => d.tag = entry.1) :
    Looks part e e' := by
  refine h.looks fun entry hentry => ?_
  rw [hcs entry hentry]
  exact List.forall₂_same.mpr fun d _ => .refl entry.2 d

/-! ## One edit -/

theorem bare_iff {e : Element} : Bare e ↔ e.tag ≠ "interface" ∧ ∀ c ∈ e.children, Bare c := by
  refine ⟨fun h => ?_, fun h => bare_of_children h.1 h.2⟩
  unfold Bare at h
  rw [Element.descendants_eq, List.forall_mem_cons] at h
  exact ⟨h.1, fun c hc d hd => h.2 d (List.mem_flatMap.mpr ⟨c, hc, hd⟩)⟩

/-- **An edit inside an interface** keeps it free of others and changes nothing of what is read. -/
theorem Edit.inside {part : Part} {e e' : Element} (h : Edit part e e') (hpart : part ≠ .outside)
    (hbare : ∀ c ∈ e.children, Bare c) : (∀ c ∈ e'.children, Bare c) ∧ SameReading part e e' := by
  induction h with
  | wrap | unwrap => exact absurd rfl hpart
  | unread htag hattributes hchildren =>
    refine ⟨hchildren ▸ hbare, Looks.reading_eq ⟨htag, hattributes, fun entry _ => ?_⟩⟩
    unfold Element.childrenTagged
    rw [hchildren]
    exact List.forall₂_same.mpr fun d _ => .refl entry.2 d
  | @insert part e e' x xs ys hx h =>
    rw [h.before, List.forall_mem_append] at hbare
    rw [h.after, List.forall_mem_append, List.forall_mem_cons]
    refine ⟨⟨hbare.1, hx.bare, hbare.2⟩, (h.looks_of_filter fun entry hentry => ?_).reading_eq⟩
    rw [filter_without hx xs ys entry hentry]
  | @remove part e e' x xs ys hx h =>
    rw [h.before, List.forall_mem_append, List.forall_mem_cons] at hbare
    rw [h.after, List.forall_mem_append]
    exact ⟨⟨hbare.1, hbare.2.2⟩, (h.looks_of_filter (filter_without hx xs ys)).reading_eq⟩
  | @reorder part e e' cs cs' hcs horder h =>
    rw [h.before] at hbare
    rw [h.after]
    exact ⟨fun c hc => hbare c (hcs.mem_iff.mpr hc),
      (h.looks_of_filter fun entry _ => hcs entry.1).reading_eq⟩
  | @nested part e e' c c' xs ys hc h ih =>
    rw [h.before, List.forall_mem_append, List.forall_mem_cons] at hbare
    rw [h.after, List.forall_mem_append, List.forall_mem_cons]
    obtain ⟨hxs, hcbare, hys⟩ := hbare
    obtain ⟨htag, hchildren⟩ := bare_iff.mp hcbare
    obtain ⟨hchildren', hreading⟩ := ih (Part.child_ne_outside hpart c.tag) hchildren
    exact ⟨⟨hxs, bare_of_children (hc.tag_eq ▸ htag) hchildren', hys⟩,
      (h.looks (forall₂_filter_replaced hc.tag_eq hreading xs ys)).reading_eq⟩

/-- The same interfaces are read, one by one. -/
def SameInterfaces (es es' : List Element) : Prop :=
  List.Forall₂ (SameReading .interface) (interfacesIn es) (interfacesIn es')

theorem sameInterfaces_of_eq {es es' : List Element} (h : interfacesIn es = interfacesIn es')
    (hflat : Flat es) : Flat es' ∧ SameInterfaces es es' := by
  unfold Flat SameInterfaces
  rw [← h]
  exact ⟨hflat, List.forall₂_same.mpr fun i _ => .refl .interface i⟩

theorem SameInterfaces.replaced {c c' : Element} (h : SameInterfaces [c] [c'])
    (xs ys : List Element) : SameInterfaces (xs ++ c :: ys) (xs ++ c' :: ys) := by
  have hrefl : ∀ es, SameInterfaces es es := fun es =>
    List.forall₂_same.mpr fun i _ => .refl .interface i
  unfold SameInterfaces
  rw [interfacesIn_append, interfacesIn_append, interfacesIn_cons c, interfacesIn_cons c']
  exact List.rel_append (hrefl xs) (List.rel_append h (hrefl ys))

/-- An interface is edited inside, and anything else outside of interfaces. -/
theorem Edit.single {c c' : Element} (h : Edit (Part.outside.child c.tag) c c')
    (hflat : Flat [c])
    (ih : Part.outside.child c.tag = .outside → Flat c.children →
      Flat c'.children ∧ SameInterfaces c.children c'.children) :
    Flat [c'] ∧ SameInterfaces [c] [c'] := by
  by_cases htag : c.tag = "interface"
  · have htag' : c'.tag = "interface" := h.tag_eq ▸ htag
    rw [htag, Part.child_interface] at h
    unfold Flat at hflat ⊢
    unfold SameInterfaces
    rw [interfacesIn_interface htag] at hflat ⊢
    rw [interfacesIn_interface htag']
    have hbare := hflat c List.mem_cons_self
    obtain ⟨hbare', hreading⟩ := h.inside (by decide) hbare
    rw [interfacesIn_of_bare hbare, interfacesIn_of_bare hbare']
    exact ⟨List.forall_mem_singleton.mpr hbare', .cons hreading .nil⟩
  · have htag' : c'.tag ≠ "interface" := h.tag_eq ▸ htag
    unfold Flat at hflat ⊢
    unfold SameInterfaces
    rw [interfacesIn_other htag] at hflat ⊢
    rw [interfacesIn_other htag']
    exact ih (Part.child_outside htag) hflat

/-- **An edit outside of interfaces** keeps all interfaces in their order, as they are read. -/
theorem Edit.outside {part : Part} {e e' : Element} (h : Edit part e e') (hpart : part = .outside)
    (hflat : Flat e.children) : Flat e'.children ∧ SameInterfaces e.children e'.children := by
  induction h with
  | unread _ _ hchildren => exact sameInterfaces_of_eq (by rw [hchildren]) hflat
  | @insert _ _ _ x xs ys hx h =>
    refine sameInterfaces_of_eq ?_ hflat
    rw [h.before, h.after, interfacesIn_without hx.bare]
  | @remove _ _ _ x xs ys hx h =>
    refine sameInterfaces_of_eq ?_ hflat
    rw [h.before, h.after, interfacesIn_without hx.bare]
  | @wrap _ _ node xs ys hnode h =>
    refine sameInterfaces_of_eq ?_ hflat
    rw [h.before, h.after, interfacesIn_wrapped hnode]
  | @unwrap _ _ node xs ys hnode h =>
    refine sameInterfaces_of_eq ?_ hflat
    rw [h.before, h.after, interfacesIn_wrapped hnode]
  | reorder hcs horder h =>
    refine sameInterfaces_of_eq ?_ hflat
    rw [h.before, h.after]
    exact horder hpart
  | @nested part e e' c c' xs ys hc h ih =>
    subst hpart
    rw [h.before, flat_append, flat_cons] at hflat
    rw [h.before, h.after, flat_append, flat_cons]
    obtain ⟨hxs, hc', hys⟩ := hflat
    obtain ⟨hflat', hsame⟩ := hc.single hc' ih
    exact ⟨⟨hxs, hflat', hys⟩, hsame.replaced xs ys⟩

/-! ## Any number of edits -/

theorem ofRoot_node {root : Element} (htag : root.tag = "node") :
    ofRoot root = (interfacesIn root.children).mapM interface := by
  unfold ofRoot
  rw [if_neg (by rw [htag]; decide), if_pos htag, interfacesIn_node htag]

/-- Interfaces are not written inside each other. -/
theorem Writes.flat {interfaces : List Interface} {root : Element} (h : Writes interfaces root) :
    Flat root.children := by
  unfold Flat
  rw [← interfacesIn_node h.tag, h.interfaces_eq]
  exact forall_of_forall₂ (fun _ _ hi => hi.bare_children) h.children

/-- **Edits make no difference.** After any number of edits of a document whose root is a node and in
which no interface is inside another one, there is still none inside another one, and the same
interfaces are read, or reading fails with the same fault. So it is with every two texts that have
these trees. -/
theorem ofRoot_edited {root root' : Element} (htag : root.tag = "node") (hflat : Flat root.children)
    (h : Relation.ReflTransGen (Edit .outside) root root') :
    Flat root'.children ∧ ofRoot root' = ofRoot root ∧
      ∀ text text', Markup.Document.read? text = some root →
        Markup.Document.read? text' = some root' → parse text' = parse text := by
  suffices hsame : root'.tag = "node" ∧ Flat root'.children ∧ ofRoot root' = ofRoot root by
    refine ⟨hsame.2.1, hsame.2.2, fun text text' htext htext' => ?_⟩
    unfold parse
    rw [htext, htext']
    exact hsame.2.2
  induction h with
  | refl => exact ⟨htag, hflat, rfl⟩
  | @tail e e' _ hedit ih =>
    obtain ⟨htag, hflat, heq⟩ := ih
    have htag' : e'.tag = "node" := hedit.tag_eq ▸ htag
    obtain ⟨hflat', hsame⟩ := hedit.outside rfl hflat
    refine ⟨htag', hflat', ?_⟩
    rw [← heq, ofRoot_node htag, ofRoot_node htag']
    exact (mapM_eq_of_forall₂ hsame).symm

/-- An interface with one method. -/
def clock : Interface where
  name := "org.example.Clock"
  methods := [⟨"Set", [⟨none, "t", .input, []⟩], [⟨"since", "2"⟩]⟩]

/-- The method with its argument in front. -/
def clockSet : Element :=
  .withChildren "method" [("name", "Set")]
    [plainArgument ⟨none, "t", .input, []⟩, plainNote ⟨"since", "2"⟩]

/-- The interface with this method and an attribute that nothing looks for. -/
def clockElement : Element :=
  .withChildren "interface" [("version", "1"), ("name", "org.example.Clock")] [clockSet]

/-- The interface in a node of its own. -/
def clockNode : Element :=
  .withChildren "node" [("name", "clock")] [clockElement]

/-- A document with this node, beside something else. -/
def clockRoot : Element :=
  .withChildren "node" []
    [.withChildren "remark" [] [plainArgument ⟨none, "y", .output, []⟩], clockNode]

/-- The plain way to write the interface, as a text. -/
def clockText : String :=
  "<node><interface name='org.example.Clock'><method name='Set'>" ++
    "<annotation name='since' value='2'/><arg type='t' direction='in'/></method></interface></node>"

/-- The other document as a text. -/
def clockRootText : String :=
  "<node><remark><arg type='y' direction='out'/></remark><node name='clock'>" ++
    "<interface version='1' name='org.example.Clock'><method name='Set'>" ++
    "<arg type='t' direction='in'/><annotation name='since' value='2'/></method></interface>" ++
    "</node></node>"

/-- The plain document becomes the other one step by step, from the inside to the outside. -/
theorem clock_edited :
    Relation.ReflTransGen (Edit .outside) (plainDocument [clock]) clockRoot ∧
      parse clockRootText = parse clockText ∧ parse clockText = .ok [clock] := by
  have hset : Edit (Part.interface.child "method")
      (plainMember "method" "Set" [⟨none, "t", .input, []⟩] [⟨"since", "2"⟩]) clockSet :=
    .reorder (reordered_swap (by decide) [] []) (fun h => nomatch h) ⟨rfl, rfl, rfl, rfl⟩
  have hmember : Edit (Part.outside.child "interface") (plainInterface clock)
      (.withChildren "interface" [("name", "org.example.Clock")] [clockSet]) :=
    @Edit.nested .interface _ _ _ _ [] [] hset ⟨rfl, rfl, rfl, rfl⟩
  have hversion : Edit (Part.outside.child "interface")
      (.withChildren "interface" [("name", "org.example.Clock")] [clockSet]) clockElement :=
    .unread rfl (by decide) rfl
  have hbelow : ∀ {i i' : Element}, i.tag = "interface" →
      Edit (Part.outside.child "interface") i i' →
      Edit .outside (.withChildren "node" [] [i]) (.withChildren "node" [] [i']) :=
    fun htag h => @Edit.nested .outside _ _ _ _ [] [] (htag ▸ h)
      ⟨rfl, rfl, Element.children_withChildren _ _ _, Element.children_withChildren _ _ _⟩
  have hwrap : Edit .outside (.withChildren "node" [] [clockElement])
      (.withChildren "node" [] [clockNode]) :=
    @Edit.wrap _ _ clockNode [] [] rfl ⟨rfl, rfl, rfl, rfl⟩
  have hremark : Irrelevant (.withChildren "remark" [] [plainArgument ⟨none, "y", .output, []⟩]) :=
    ⟨by decide, bare_of_children (by decide) (by
      rw [Element.children_withChildren, List.forall_mem_singleton]
      exact (writes_plainArgument .output _).bare)⟩
  have hinsert : Edit .outside (.withChildren "node" [] [clockNode]) clockRoot :=
    @Edit.insert .outside _ _ _ [] _ hremark ⟨rfl, rfl, rfl, rfl⟩
  have hedits : Relation.ReflTransGen (Edit .outside) (plainDocument [clock]) clockRoot :=
    (((Relation.ReflTransGen.single (hbelow rfl hmember)).tail (hbelow rfl hversion)).tail
      hwrap).tail hinsert
  have htext : Markup.Document.read? clockText = some (plainDocument [clock]) := by
    unfold Markup.Document.read? clockText
    simp only [String.toList_append]
    repeat rw [String.toList_ofList]
    decide +kernel
  have htext' : Markup.Document.read? clockRootText = some clockRoot := by
    unfold Markup.Document.read? clockRootText
    simp only [String.toList_append]
    repeat rw [String.toList_ofList]
    decide +kernel
  have hwritten := writes_plainDocument [clock]
  obtain ⟨-, -, hparse⟩ := ofRoot_edited rfl hwritten.flat hedits
  refine ⟨hedits, hparse _ _ htext htext', ?_⟩
  unfold parse
  rw [htext]
  exact hwritten.ofRoot_eq

/-! ## Members that are part of no interface -/

/-- A method that is part of no interface, with one interface in it and one deeper inside. -/
def shelf : Element :=
  .withChildren "method" []
    [plainInterface { name := "org.example.Top" },
      .withChildren "node" [] [plainInterface { name := "org.example.Bottom" }]]

/-- The same method, with its children the other way round. -/
def shelfSwapped : Element :=
  .withChildren "method" []
    [.withChildren "node" [] [plainInterface { name := "org.example.Bottom" }],
      plainInterface { name := "org.example.Top" }]

def shelfText : String :=
  "<node><method><interface name='org.example.Top'/>" ++
    "<node><interface name='org.example.Bottom'/></node></method></node>"

def shelfSwappedText : String :=
  "<node><method><node><interface name='org.example.Bottom'/></node>" ++
    "<interface name='org.example.Top'/></method></node>"

/-- **The children of a method that is part of no interface** may not change places freely, even if
those with the same tag keep their order. The interfaces below are listed as they come. -/
theorem shelf_swapped :
    Flat [shelf] ∧ Recast shelf shelf.children shelfSwapped shelfSwapped.children ∧
      Reordered shelf.children shelfSwapped.children ∧
      Markup.Document.read? shelfText = some (.withChildren "node" [] [shelf]) ∧
      Markup.Document.read? shelfSwappedText = some (.withChildren "node" [] [shelfSwapped]) ∧
      parse shelfText = .ok [{ name := "org.example.Top" }, { name := "org.example.Bottom" }] ∧
      parse shelfSwappedText =
        .ok [{ name := "org.example.Bottom" }, { name := "org.example.Top" }] := by
  have htext : Markup.Document.read? shelfText = some (.withChildren "node" [] [shelf]) := by
    unfold Markup.Document.read? shelfText
    simp only [String.toList_append]
    repeat rw [String.toList_ofList]
    decide +kernel
  have htext' : Markup.Document.read? shelfSwappedText =
      some (.withChildren "node" [] [shelfSwapped]) := by
    unfold Markup.Document.read? shelfSwappedText
    simp only [String.toList_append]
    repeat rw [String.toList_ofList]
    decide +kernel
  refine ⟨?_, ⟨rfl, rfl, rfl, rfl⟩, reordered_swap (by decide) [] [], htext, htext', ?_, ?_⟩
  · have hfound : interfacesIn [shelf] = [plainInterface { name := "org.example.Top" },
        plainInterface { name := "org.example.Bottom" }] := rfl
    have hempty : ∀ name, (plainInterface { name }).children = [] := fun _ => rfl
    unfold Flat
    rw [hfound]
    simp [hempty]
  · unfold parse
    rw [htext]
    rfl
  · unfold parse
    rw [htext']
    rfl

end BusTraits.Introspection
