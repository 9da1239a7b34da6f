import BusTraits.Interface.Introspection
import BusTraits.Interface.Outline
import BusTraits.Proofs.FirstFault
import BusTraits.Proofs.Interleaving
import BusTraits.Proofs.Markup.Tree

/-!
# Writing interfaces down and reading them back

`Writes interfaces root` says that the tree of `root` is a way to write down these interfaces. There
are many. Attributes stand in any order and text does not count. Inside an interface or a member,
children of one kind stand in their order, but different kinds may be mixed. The direction of an
argument may be left out where it is the usual one, and an argument without a name has no attribute
for it. Whichever way is taken, the interfaces that are read are those that were written.

* `writes_plainDocument`: one way to write, which there is for all interfaces;
* `childrenTagged_of_interleaved`: the children of a kind, among all others;
* `WritesArgument.read`, `WritesMember.read`, `WritesProperty.read`, `WritesInterface.read`: what is
  read of each part by itself;
* `Writes.interfaces_eq`: the parts of an interface have no interface inside, so those that are
  found are those below the root;
* `Writes.unique`: a tree writes no other list of interfaces;
* **`parse_written`**: every list of interfaces can be written, and is read back.
-/

namespace BusTraits

open Markup (Element)

namespace Introspection

/-! ## Ways to write -/

/-- The attributes of an element, in any order. -/
def HasAttributes (e : Element) (attributes : List (String × String)) : Prop :=
  ∀ key, e.attribute? key = attributes.lookup key

/-- An annotation has nothing inside. -/
structure WritesNote (a : Annotation) (e : Element) : Prop where
  tag : e.tag = "annotation"
  attributes : HasAttributes e [("name", a.name), ("value", a.value)]
  children : e.children = []

/-- How an argument tells its direction: with a word, or not at all if it is the usual one. -/
inductive TellsDirection (usual : Direction) : Direction → List (String × String) → Prop where
  | word (d : Direction) : TellsDirection usual d [("direction", d.word)]
  | silence : TellsDirection usual usual []

/-- The direction that is usual depends on the member. Nothing but annotations is inside. -/
structure WritesArgument (usual : Direction) (a : Argument) (e : Element) : Prop where
  tag : e.tag = "arg"
  attributes : ∃ told, TellsDirection usual a.direction told ∧
    HasAttributes e ((a.name.map ("name", ·)).toList ++ ("type", a.signature) :: told)
  children : List.Forall₂ WritesNote a.annotations e.children

/-- Methods and signals are written alike. They differ in their tag and in the usual direction. -/
structure WritesMember (tag : String) (usual : Direction) (name : String)
    (arguments : List Argument) (annotations : List Annotation) (e : Element) : Prop where
  tag : e.tag = tag
  attributes : HasAttributes e [("name", name)]
  children : ∃ notes args, List.Forall₂ WritesNote annotations notes ∧
    List.Forall₂ (WritesArgument usual) arguments args ∧ Interleaved [notes, args] e.children

def WritesMethod (m : Method) : Element → Prop :=
  WritesMember "method" .input m.name m.arguments m.annotations

def WritesSignal (s : Signal) : Element → Prop :=
  WritesMember "signal" .output s.name s.arguments s.annotations

structure WritesProperty (p : Property) (e : Element) : Prop where
  tag : e.tag = "property"
  attributes : HasAttributes e [("name", p.name), ("type", p.signature), ("access", p.access.word)]
  children : List.Forall₂ WritesNote p.annotations e.children

/-- The four kinds of children are in their order, each by itself. -/
structure WritesInterface (i : Interface) (e : Element) : Prop where
  tag : e.tag = "interface"
  attributes : HasAttributes e [("name", i.name)]
  children : ∃ notes methods properties signals, List.Forall₂ WritesNote i.annotations notes ∧
    List.Forall₂ WritesMethod i.methods methods ∧
    List.Forall₂ WritesProperty i.properties properties ∧
    List.Forall₂ WritesSignal i.signals signals ∧
    Interleaved [notes, methods, properties, signals] e.children

/-- The root of a document that lists interfaces. Its own attributes do not matter. -/
structure Writes (interfaces : List Interface) (root : Element) : Prop where
  tag : root.tag = "node"
  children : List.Forall₂ WritesInterface interfaces root.children

/-- Different attributes can be written in any order. -/
theorem hasAttributes_of_perm {e : Element} {attributes : List (String × String)}
    (h : e.attributes.Perm attributes) (hnodup : (e.attributes.map Prod.fst).Nodup) :
    HasAttributes e attributes :=
  Markup.lookup_eq_of_perm h hnodup

/-! ## The plain way

One kind comes after the other, and every argument tells its direction. -/

def plainNote (a : Annotation) : Element :=
  .withChildren "annotation" [("name", a.name), ("value", a.value)] []

def plainArgument (a : Argument) : Element :=
  .withChildren "arg" ((a.name.map ("name", ·)).toList ++
    [("type", a.signature), ("direction", a.direction.word)]) (a.annotations.map plainNote)

def plainMember (tag name : String) (arguments : List Argument) (annotations : List Annotation) :
    Element :=
  .withChildren tag [("name", name)]
    [annotations.map plainNote, arguments.map plainArgument].flatten

def plainProperty (p : Property) : Element :=
  .withChildren "property" [("name", p.name), ("type", p.signature), ("access", p.access.word)]
    (p.annotations.map plainNote)

def plainInterface (i : Interface) : Element :=
  .withChildren "interface" [("name", i.name)]
    [i.annotations.map plainNote,
      i.methods.map fun m => plainMember "method" m.name m.arguments m.annotations,
      i.properties.map plainProperty,
      i.signals.map fun s => plainMember "signal" s.name s.arguments s.annotations].flatten

def plainDocument (interfaces : List Interface) : Element :=
  .withChildren "node" [] (interfaces.map plainInterface)

theorem writes_plainNote (a : Annotation) : WritesNote a (plainNote a) :=
  ⟨rfl, fun _ => rfl, Element.children_withChildren _ _ _⟩

theorem writes_plainArgument (usual : Direction) (a : Argument) :
    WritesArgument usual a (plainArgument a) := by
  refine ⟨rfl, ⟨_, .word a.direction, fun _ => rfl⟩, ?_⟩
  rw [plainArgument, Element.children_withChildren]
  exact forall₂_map_right writes_plainNote _

theorem writes_plainMember (tag : String) (usual : Direction) (name : String)
    (arguments : List Argument) (annotations : List Annotation) :
    WritesMember tag usual name arguments annotations
      (plainMember tag name arguments annotations) := by
  refine ⟨rfl, fun _ => rfl, _, _, forall₂_map_right writes_plainNote _,
    forall₂_map_right (writes_plainArgument usual) _, ?_⟩
  rw [plainMember, Element.children_withChildren]
  exact interleaved_flatten _

theorem writes_plainProperty (p : Property) : WritesProperty p (plainProperty p) := by
  refine ⟨rfl, fun _ => rfl, ?_⟩
  rw [plainProperty, Element.children_withChildren]
  exact forall₂_map_right writes_plainNote _

theorem writes_plainInterface (i : Interface) : WritesInterface i (plainInterface i) := by
  refine ⟨rfl, fun _ => rfl, _, _, _, _, forall₂_map_right writes_plainNote _,
    forall₂_map_right (fun m : Method => writes_plainMember "method" .input m.name _ _) _,
    forall₂_map_right writes_plainProperty _,
    forall₂_map_right (fun s : Signal => writes_plainMember "signal" .output s.name _ _) _, ?_⟩
  rw [plainInterface, Element.children_withChildren]
  exact interleaved_flatten _

theorem writes_plainDocument (interfaces : List Interface) :
    Writes interfaces (plainDocument interfaces) := by
  refine ⟨rfl, ?_⟩
  rw [plainDocument, Element.children_withChildren]
  exact forall₂_map_right writes_plainInterface _

/-! ## Reading the parts -/

section Reading

variable {e : Element} {tag key value : String} {attributes : List (String × String)}
variable {place : Place} {usual : Direction}

theorem HasAttributes.required (h : HasAttributes e attributes)
    (hkey : attributes.lookup key = some value) : required place e key = .ok value := by
  unfold Introspection.required
  rw [h key, hkey]

/-- The children of a kind, where others come between them. -/
theorem childrenTagged_of_interleaved (parts : List (String × List Element))
    (h : Interleaved (parts.map Prod.snd) e.children) (hnodup : (parts.map Prod.fst).Nodup)
    (htags : ∀ part ∈ parts, ∀ c ∈ part.2, c.tag = part.1) :
    ∀ part ∈ parts, e.childrenTagged part.1 = part.2 :=
  Interleaved.filter_kind h hnodup htags

theorem childrenTagged_of_forall (h : ∀ c ∈ e.children, c.tag = tag) :
    e.childrenTagged tag = e.children :=
  List.filter_eq_self.mpr fun c hc => decide_eq_true (h c hc)

theorem annotations_of_forall₂ {as : List Annotation} {notes : List Element}
    (h : List.Forall₂ WritesNote as notes) (hnotes : e.childrenTagged "annotation" = notes) :
    annotations e = as := by
  unfold annotations
  rw [hnotes]
  clear hnotes
  induction h with
  | nil => rfl
  | cons ha _ ih =>
    rw [List.map_cons, ih, ha.attributes, ha.attributes]
    rfl

theorem annotations_of_children {as : List Annotation}
    (h : List.Forall₂ WritesNote as e.children) : annotations e = as :=
  annotations_of_forall₂ h
    (childrenTagged_of_forall (forall_of_forall₂ (fun _ _ ha => ha.tag) h))

theorem direction_eq_ok {d : Direction} {told : List (String × String)}
    (h : TellsDirection usual d told) (he : e.attribute? "direction" = told.lookup "direction") :
    direction place usual e = .ok d := by
  unfold direction
  rw [he]
  cases h with
  | word => cases d <;> rfl
  | silence => rfl

/-- What the attributes of an argument say, whether or not it has a name and tells its direction. -/
theorem WritesArgument.lookups {a : Argument} (h : WritesArgument usual a e) :
    e.attribute? "name" = a.name ∧ e.attribute? "type" = some a.signature ∧
      ∃ told, TellsDirection usual a.direction told ∧
        e.attribute? "direction" = told.lookup "direction" := by
  obtain ⟨told, htold, hattributes⟩ := h.attributes
  rw [hattributes, hattributes, hattributes]
  cases a.name with
  | none => exact ⟨by cases htold <;> rfl, rfl, told, htold, rfl⟩
  | some name => exact ⟨rfl, rfl, told, htold, rfl⟩

theorem WritesArgument.read {a : Argument} (h : WritesArgument usual a e) (place : Place) :
    argument place usual e = .ok a := by
  obtain ⟨hname, htype, told, htold, hdirection⟩ := h.lookups
  unfold argument required
  rw [direction_eq_ok htold hdirection, htype, hname, annotations_of_children h.children]
  rfl

theorem WritesMember.read {name : String} {as : List Argument} {notes : List Annotation}
    (h : WritesMember tag usual name as notes e) :
    required .document e "name" = .ok name ∧
      (∀ place, arguments place usual e = .ok as) ∧ annotations e = notes := by
  obtain ⟨noteElements, argElements, hnotes, hargs, hchildren⟩ := h.children
  have hkinds := childrenTagged_of_interleaved [("annotation", noteElements), ("arg", argElements)]
    hchildren (by simp) (by
      simpa using ⟨forall_of_forall₂ (fun _ _ hn => hn.tag) hnotes,
        forall_of_forall₂ (fun _ _ ha => ha.tag) hargs⟩)
  simp only [List.forall_mem_cons] at hkinds
  obtain ⟨hnoteChildren, hargChildren, -⟩ := hkinds
  refine ⟨h.attributes.required rfl, fun place => ?_, annotations_of_forall₂ hnotes hnoteChildren⟩
  unfold arguments
  rw [hargChildren]
  exact mapM_eq_ok_of_forall₂ (fun _ _ ha => ha.read place) hargs

theorem WritesMethod.read {m : Method} (h : WritesMethod m e) (interface : String) :
    method interface e = .ok m := by
  obtain ⟨hname, harguments, hannotations⟩ := WritesMember.read h
  unfold method
  simp only [hname, harguments, hannotations, bind, Except.bind]
  rfl

theorem WritesSignal.read {s : Signal} (h : WritesSignal s e) (interface : String) :
    signal interface e = .ok s := by
  obtain ⟨hname, harguments, hannotations⟩ := WritesMember.read h
  unfold signal
  simp only [hname, harguments, hannotations, bind, Except.bind]
  rfl

theorem access?_word (a : Access) : access? a.word = some a := by
  cases a <;> rfl

theorem WritesProperty.read {p : Property} (h : WritesProperty p e) (interface : String) :
    property interface e = .ok p := by
  have hname : required .document e "name" = .ok p.name := h.attributes.required rfl
  have haccess : required .document e "access" = .ok p.access.word := h.attributes.required rfl
  have htype : required .document e "type" = .ok p.signature := h.attributes.required rfl
  unfold property
  simp only [hname, haccess, htype, access?_word, annotations_of_children h.children, bind,
    Except.bind]
  rfl

theorem WritesInterface.read {i : Interface} (h : WritesInterface i e) :
    interface e = .ok i := by
  obtain ⟨notes, methods, properties, signals, hnotes, hmethods, hproperties, hsignals,
    hchildren⟩ := h.children
  have hkinds := childrenTagged_of_interleaved [("annotation", notes), ("method", methods),
    ("property", properties), ("signal", signals)] hchildren (by simp) (by
      simpa using ⟨forall_of_forall₂ (fun _ _ hn => hn.tag) hnotes,
        forall_of_forall₂ (fun _ _ hm => hm.tag) hmethods,
        forall_of_forall₂ (fun _ _ hp => hp.tag) hproperties,
        forall_of_forall₂ (fun _ _ hs => hs.tag) hsignals⟩)
  simp only [List.forall_mem_cons] at hkinds
  obtain ⟨hnoteChildren, hmethodChildren, hpropertyChildren, hsignalChildren, -⟩ := hkinds
  have hname : required .document e "name" = .ok i.name := h.attributes.required rfl
  have hmethodRun : (e.childrenTagged "method").mapM (method i.name) = .ok i.methods := by
    rw [hmethodChildren]
    exact mapM_eq_ok_of_forall₂ (fun _ _ hm => hm.read i.name) hmethods
  have hpropertyRun : (e.childrenTagged "property").mapM (property i.name) = .ok i.properties := by
    rw [hpropertyChildren]
    exact mapM_eq_ok_of_forall₂ (fun _ _ hp => hp.read i.name) hproperties
  have hsignalRun : (e.childrenTagged "signal").mapM (signal i.name) = .ok i.signals := by
    rw [hsignalChildren]
    exact mapM_eq_ok_of_forall₂ (fun _ _ hs => hs.read i.name) hsignals
  unfold interface
  simp only [hname, hmethodRun, hpropertyRun, hsignalRun,
    annotations_of_forall₂ hnotes hnoteChildren, bind, Except.bind]
  rfl

end Reading

/-! ## Finding the interfaces -/

/-- There is no interface in a tree. -/
def Bare (e : Element) : Prop :=
  ∀ d ∈ e.descendants, d.tag ≠ "interface"

section Finding

variable {e : Element}

theorem bare_of_children (htag : e.tag ≠ "interface") (h : ∀ c ∈ e.children, Bare c) : Bare e := by
  unfold Bare
  rw [Element.descendants_eq, List.forall_mem_cons]
  refine ⟨htag, fun d hd => ?_⟩
  obtain ⟨c, hc, hd⟩ := List.mem_flatMap.mp hd
  exact h c hc d hd

theorem WritesNote.bare {a : Annotation} (h : WritesNote a e) : Bare e := by
  refine bare_of_children (by rw [h.tag]; decide) ?_
  rw [h.children]
  exact fun _ hc => absurd hc List.not_mem_nil

theorem WritesArgument.bare {usual : Direction} {a : Argument} (h : WritesArgument usual a e) :
    Bare e :=
  bare_of_children (by rw [h.tag]; decide) (forall_of_forall₂ (fun _ _ ha => ha.bare) h.children)

theorem WritesMember.bare {tag name : String} {usual : Direction} {as : List Argument}
    {notes : List Annotation} (h : WritesMember tag usual name as notes e)
    (htag : tag ≠ "interface") : Bare e := by
  obtain ⟨noteElements, argElements, hnotes, hargs, hchildren⟩ := h.children
  refine bare_of_children (by rwa [h.tag]) (hchildren.forall_mem ?_)
  simpa using ⟨forall_of_forall₂ (fun _ _ hn => hn.bare) hnotes,
    forall_of_forall₂ (fun _ _ ha => ha.bare) hargs⟩

theorem WritesProperty.bare {p : Property} (h : WritesProperty p e) : Bare e :=
  bare_of_children (by rw [h.tag]; decide) (forall_of_forall₂ (fun _ _ ha => ha.bare) h.children)

theorem WritesInterface.bare_children {i : Interface} (h : WritesInterface i e) :
    ∀ c ∈ e.children, Bare c := by
  obtain ⟨notes, methods, properties, signals, hnotes, hmethods, hproperties, hsignals,
    hchildren⟩ := h.children
  refine hchildren.forall_mem ?_
  simpa using ⟨forall_of_forall₂ (fun _ _ hn => hn.bare) hnotes,
    forall_of_forall₂ (fun _ _ hm => WritesMember.bare hm (by decide)) hmethods,
    forall_of_forall₂ (fun _ _ hp => hp.bare) hproperties,
    forall_of_forall₂ (fun _ _ hs => WritesMember.bare hs (by decide)) hsignals⟩

/-- The only interface in the tree of one is itself. -/
theorem WritesInterface.interfaces_eq {i : Interface} (h : WritesInterface i e) :
    e.descendants.filter (·.tag = "interface") = [e] := by
  rw [Element.descendants_eq, List.filter_cons_of_pos (by simp [h.tag]),
    List.filter_eq_nil_iff.mpr ?_]
  intro d hd
  obtain ⟨c, hc, hd⟩ := List.mem_flatMap.mp hd
  simpa using h.bare_children c hc d hd

theorem Writes.interfaces_eq {interfaces : List Interface} {root : Element}
    (h : Writes interfaces root) :
    root.descendants.filter (·.tag = "interface") = root.children := by
  rw [Element.descendants_eq, List.filter_cons_of_neg (by simp [h.tag]), List.filter_flatMap]
  have hown : ∀ c ∈ root.children, c.descendants.filter (·.tag = "interface") = [c] :=
    forall_of_forall₂ (fun _ _ hi => hi.interfaces_eq) h.children
  rw [List.flatMap_congr hown, List.flatMap_singleton']

theorem Writes.ofRoot_eq {interfaces : List Interface} {root : Element}
    (h : Writes interfaces root) : ofRoot root = .ok interfaces := by
  unfold ofRoot
  rw [if_neg (by rw [h.tag]; decide), if_pos h.tag, h.interfaces_eq]
  exact mapM_eq_ok_of_forall₂ (fun _ _ hi => hi.read) h.children

/-- A tree is a way to write at most one list of interfaces. -/
theorem Writes.unique {is js : List Interface} {root : Element} (h : Writes is root)
    (h' : Writes js root) : is = js := by
  have heq := h.ofRoot_eq
  rw [h'.ofRoot_eq] at heq
  exact (Except.ok.inj heq).symm

end Finding

/-! ## Documents -/

/-- **Interfaces are read as they were written.** There is a way to write every list of interfaces,
and in whichever way it was written, the tree is read as this list, with every name, signature,
direction, access and annotation in its place. So is every text that has this tree. -/
theorem parse_written (interfaces : List Interface) :
    Writes interfaces (plainDocument interfaces) ∧
      ∀ root, Writes interfaces root → ofRoot root = .ok interfaces ∧
        ∀ text, Markup.Document.read? text = some root → parse text = .ok interfaces := by
  refine ⟨writes_plainDocument interfaces, fun root h => ⟨h.ofRoot_eq, fun text htext => ?_⟩⟩
  unfold parse
  rw [htext]
  exact h.ofRoot_eq

/-- A method with arguments of both directions, a property for each access, a signal with an
argument that goes the other way, and annotations on everything. -/
def door : Interface where
  name := "org.example.Door"
  methods := [⟨"Open", [⟨some "", "s", .input, [⟨"unit", "mm"⟩]⟩, ⟨none, "b", .output, []⟩],
    [⟨"since", "2"⟩]⟩]
  properties := [⟨"Shut", "b", .read, [⟨"const", ""⟩]⟩, ⟨"Width", "u", .readWrite, []⟩,
    ⟨"Key", "ay", .write, []⟩]
  signals := [⟨"Moved", [⟨none, "u", .output, []⟩, ⟨some "by", "s", .input, []⟩], [⟨"", ""⟩]⟩]
  annotations := [⟨"kind", "a"⟩]

/-- An interface that has nothing, not even a name. -/
def nameless : Interface where
  name := ""

/-- The method of the door. Its first argument has the usual direction. -/
def doorOpen : Element :=
  .withChildren "method" [("name", "Open")]
    [.withChildren "arg" [("type", "s"), ("name", "")] [plainNote ⟨"unit", "mm"⟩],
      plainNote ⟨"since", "2"⟩, plainArgument ⟨none, "b", .output, []⟩]

/-- The signal of the door. Its first argument has the usual direction. -/
def doorMoved : Element :=
  .withChildren "signal" [("name", "Moved")]
    [.withChildren "arg" [("type", "u")] [], plainNote ⟨"", ""⟩,
      plainArgument ⟨some "by", "s", .input, []⟩]

/-- The door and the nameless interface. -/
def doorRoot : Element where
  tag := "node"
  content :=
    [.element "interface" [("name", "org.example.Door")]
      [.text "\n  ", (plainProperty ⟨"Shut", "b", .read, [⟨"const", ""⟩]⟩).toNode,
        doorMoved.toNode, doorOpen.toNode, (plainProperty ⟨"Width", "u", .readWrite, []⟩).toNode,
        (plainNote ⟨"kind", "a"⟩).toNode, (plainProperty ⟨"Key", "ay", .write, []⟩).toNode],
      (plainInterface nameless).toNode]

/-- A text with this tree. -/
def doorText : String :=
  "<node><interface name='org.example.Door'>\n  <property name='Shut' type='b' access='read'>" ++
    "<annotation name='const' value=''/></property><signal name='Moved'><arg type='u'/>" ++
    "<annotation name='' value=''/><arg name='by' type='s' direction='in'/></signal>" ++
    "<method name='Open'><arg type='s' name=''><annotation name='unit' value='mm'/></arg>" ++
    "<annotation name='since' value='2'/><arg type='b' direction='out'/></method>" ++
    "<property name='Width' type='u' access='readwrite'/><annotation name='kind' value='a'/>" ++
    "<property name='Key' type='ay' access='write'/></interface><interface name=''/></node>"

/-- The door is read from the text. -/
theorem door_written :
    Writes [door, nameless] doorRoot ∧ Markup.Document.read? doorText = some doorRoot ∧
      parse doorText = .ok [door, nameless] := by
  have hway : WritesArgument .input ⟨some "", "s", .input, [⟨"unit", "mm"⟩]⟩
      (.withChildren "arg" [("type", "s"), ("name", "")] [plainNote ⟨"unit", "mm"⟩]) :=
    ⟨rfl, ⟨[], .silence, hasAttributes_of_perm (.swap _ _ _) (by decide)⟩,
      .cons (writes_plainNote _) .nil⟩
  have hopen : WritesMethod ⟨"Open", [⟨some "", "s", .input, [⟨"unit", "mm"⟩]⟩,
      ⟨none, "b", .output, []⟩], [⟨"since", "2"⟩]⟩ doorOpen :=
    ⟨rfl, fun _ => rfl, _, _, .cons (writes_plainNote _) .nil,
      .cons hway (.cons (writes_plainArgument _ _) .nil),
      _, ⟨_, rfl, .left (.left .nil)⟩, .right (.left (.right .nil))⟩
  have hwidth : WritesArgument .output ⟨none, "u", .output, []⟩
      (.withChildren "arg" [("type", "u")] []) :=
    ⟨rfl, ⟨[], .silence, fun _ => rfl⟩, .nil⟩
  have hmoved : WritesSignal ⟨"Moved", [⟨none, "u", .output, []⟩, ⟨some "by", "s", .input, []⟩],
      [⟨"", ""⟩]⟩ doorMoved :=
    ⟨rfl, fun _ => rfl, _, _, .cons (writes_plainNote _) .nil,
      .cons hwidth (.cons (writes_plainArgument _ _) .nil),
      _, ⟨_, rfl, .left (.left .nil)⟩, .right (.left (.right .nil))⟩
  have hwritten : Writes [door, nameless] doorRoot :=
    ⟨rfl, .cons ⟨rfl, fun _ => rfl, _, _, _, _, .cons (writes_plainNote _) .nil,
      .cons hopen .nil, .cons (writes_plainProperty _) (.cons (writes_plainProperty _)
        (.cons (writes_plainProperty _) .nil)), .cons hmoved .nil,
      _, ⟨_, ⟨_, ⟨_, rfl, .left .nil⟩, .left (.right (.left (.left .nil)))⟩,
        .right (.right (.left (.right (.right .nil))))⟩,
      .right (.right (.right (.right (.left (.right .nil)))))⟩
      (.cons (writes_plainInterface _) .nil)⟩
  have htree : Markup.Document.read? doorText = some doorRoot := by
    unfold Markup.Document.read? doorText
    simp only [String.toList_append]
    repeat rw [String.toList_ofList]
    decide +kernel
  exact ⟨hwritten, htree, ((parse_written _).2 _ hwritten).2 _ htree⟩

end Introspection

end BusTraits
