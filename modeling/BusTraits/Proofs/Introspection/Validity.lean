import BusTraits.Interface.Introspection
import BusTraits.Proofs.FirstFault
import BusTraits.Proofs.Markup.Tree

/-!
# Documents that are accepted

Which trees describe interfaces is said here without a reader (`Valid`), and so is what there is to
say against the others: `faults` lists all faults of a tree in the order they are looked for, which
is not the order of the document, since the methods of an interface come before its properties and
these before its signals.

The reader stops at the first of them. That is shown function by function, each by `faultOf_bind`
and `faultOf_mapM` from those it calls.

* `required_fault`, `direction_fault`, `argument_fault`, `method_fault`, `property_fault`,
  `signal_fault`, `interface_fault`, `ofRoot_fault`: the fault of each part is the first in its
  list;
* `argumentFaults_eq_nil_iff`, `memberFaults_eq_nil_iff`, `propertyFaults_eq_nil_iff`,
  `interfaceFaults_eq_nil_iff`, `faults_eq_nil_iff`: a part is valid if there is nothing in it;
* `message_eq`: what the line for a fault says;
* **`ofRoot_diagnosis`**: which trees are accepted, with what, and what the others are rejected
  for.
-/

namespace BusTraits.Introspection

open Markup (Element)

/-! ## Valid documents -/

/-- An argument has a type, and its direction is one of the two if it says one. -/
structure ValidArgument (e : Element) : Prop where
  direction : ∀ d, e.attribute? "direction" = some d → d ∈ ["in", "out"]
  type : ∃ t, e.attribute? "type" = some t

/-- A method or a signal has a name, and its arguments are valid. -/
structure ValidMember (e : Element) : Prop where
  name : ∃ n, e.attribute? "name" = some n
  arguments : ∀ a ∈ e.childrenTagged "arg", ValidArgument a

/-- A property has a name, an access of a known kind, and a type. -/
structure ValidProperty (e : Element) : Prop where
  name : ∃ n, e.attribute? "name" = some n
  access : ∃ a, e.attribute? "access" = some a ∧ a ∈ ["read", "write", "readwrite"]
  type : ∃ t, e.attribute? "type" = some t

/-- An interface has a name, and the members directly inside it are valid. -/
structure ValidInterface (e : Element) : Prop where
  name : ∃ n, e.attribute? "name" = some n
  methods : ∀ m ∈ e.childrenTagged "method", ValidMember m
  properties : ∀ p ∈ e.childrenTagged "property", ValidProperty p
  signals : ∀ s ∈ e.childrenTagged "signal", ValidMember s

/-- The interfaces of a document: the root alone if it is one, otherwise all there are in it at any
depth, each before those inside it. -/
def considered (root : Element) : List Element :=
  if root.tag = "interface" then [root] else root.descendants.filter (·.tag = "interface")

/-- A document has the right root, and its interfaces are valid. -/
structure Valid (root : Element) : Prop where
  tag : root.tag ∈ ["interface", "node"]
  interfaces : ∀ e ∈ considered root, ValidInterface e

/-! ## All faults in order -/

/-- A name as a message quotes it. Where there is none, that is an earlier fault. -/
def nameOf (e : Element) : String := (e.attribute? "name").getD ""

/-- An attribute that has to be there. -/
def lacking (place : Place) (e : Element) (key : String) : List Fault :=
  match e.attribute? key with
  | some _ => []
  | none => [.missingAttribute place e.tag key]

/-- An attribute that has to be one of some words if it is there. -/
def misspelt (e : Element) (key : String) (words : List String) (fault : String → Fault) :
    List Fault :=
  match e.attribute? key with
  | some word => if word ∈ words then [] else [fault word]
  | none => []

def argumentFaults (place : Place) (e : Element) : List Fault :=
  misspelt e "direction" ["in", "out"] (.unknownDirection place) ++ lacking place e "type"

def memberFaults (interface : String) (e : Element) : List Fault :=
  lacking .document e "name" ++
    (e.childrenTagged "arg").flatMap (argumentFaults (.member interface (nameOf e)))

def propertyFaults (interface : String) (e : Element) : List Fault :=
  lacking .document e "name" ++ (lacking .document e "access" ++
    (misspelt e "access" ["read", "write", "readwrite"] (.unknownAccess interface (nameOf e)) ++
      lacking .document e "type"))

def interfaceFaults (e : Element) : List Fault :=
  lacking .document e "name" ++ ((e.childrenTagged "method").flatMap (memberFaults (nameOf e)) ++
    ((e.childrenTagged "property").flatMap (propertyFaults (nameOf e)) ++
      (e.childrenTagged "signal").flatMap (memberFaults (nameOf e))))

/-- The faults of a document. -/
def faults (root : Element) : List Fault :=
  if root.tag ∈ ["interface", "node"] then (considered root).flatMap interfaceFaults
  else [.wrongRoot root.tag]

/-! ## What is said of a fault -/

/-- Where an element is, in front of what is said of it. -/
def Place.detail : Place → String
  | document => ""
  | member interface name => interface ++ "." ++ name ++ ": "

/-- What the line for a fault says behind the source of the document. -/
def Fault.detail : Fault → String
  | notMarkup => "invalid introspection XML"
  | wrongRoot tag => "expected a <node> root element, got <" ++ tag ++ ">"
  | missingAttribute place tag key =>
    place.detail ++ "<" ++ tag ++ "> is missing the '" ++ key ++ "' attribute"
  | unknownDirection place direction =>
    place.detail ++ "unknown arg direction '" ++ direction ++ "'"
  | unknownAccess interface property access =>
    "property " ++ interface ++ "." ++ property ++ " has unknown access '" ++ access ++ "'"

/-! ## Nothing at fault -/

theorem lacking_eq_nil_iff {place : Place} {e : Element} {key : String} :
    lacking place e key = [] ↔ ∃ value, e.attribute? key = some value := by
  unfold lacking
  cases e.attribute? key <;> simp

theorem misspelt_eq_nil_iff {e : Element} {key : String} {words : List String}
    {fault : String → Fault} :
    misspelt e key words fault = [] ↔ ∀ word, e.attribute? key = some word → word ∈ words := by
  unfold misspelt
  cases e.attribute? key <;> simp

theorem argumentFaults_eq_nil_iff {place : Place} {e : Element} :
    argumentFaults place e = [] ↔ ValidArgument e := by
  unfold argumentFaults
  rw [List.append_eq_nil_iff, misspelt_eq_nil_iff, lacking_eq_nil_iff]
  exact ⟨fun h => ⟨h.1, h.2⟩, fun h => ⟨h.direction, h.type⟩⟩

theorem memberFaults_eq_nil_iff {interface : String} {e : Element} :
    memberFaults interface e = [] ↔ ValidMember e := by
  unfold memberFaults
  simp only [List.append_eq_nil_iff, lacking_eq_nil_iff, List.flatMap_eq_nil_iff,
    argumentFaults_eq_nil_iff]
  exact ⟨fun h => ⟨h.1, h.2⟩, fun h => ⟨h.name, h.arguments⟩⟩

theorem propertyFaults_eq_nil_iff {interface : String} {e : Element} :
    propertyFaults interface e = [] ↔ ValidProperty e := by
  unfold propertyFaults
  simp only [List.append_eq_nil_iff, lacking_eq_nil_iff, misspelt_eq_nil_iff]
  constructor
  · rintro ⟨hname, ⟨access, haccess⟩, hknown, htype⟩
    exact ⟨hname, ⟨access, haccess, hknown access haccess⟩, htype⟩
  · rintro ⟨hname, ⟨access, haccess, hknown⟩, htype⟩
    refine ⟨hname, ⟨access, haccess⟩, fun word hword => ?_, htype⟩
    rw [haccess] at hword
    cases hword
    exact hknown

theorem interfaceFaults_eq_nil_iff {e : Element} : interfaceFaults e = [] ↔ ValidInterface e := by
  unfold interfaceFaults
  simp only [List.append_eq_nil_iff, lacking_eq_nil_iff, List.flatMap_eq_nil_iff,
    memberFaults_eq_nil_iff, propertyFaults_eq_nil_iff]
  exact ⟨fun h => ⟨h.1, h.2.1, h.2.2.1, h.2.2.2⟩,
    fun h => ⟨h.name, h.methods, h.properties, h.signals⟩⟩

theorem faults_eq_nil_iff {root : Element} : faults root = [] ↔ Valid root := by
  unfold faults
  split
  · rename_i htag
    simp only [List.flatMap_eq_nil_iff, interfaceFaults_eq_nil_iff]
    exact ⟨fun h => ⟨htag, h⟩, fun h => h.interfaces⟩
  · rename_i htag
    exact ⟨fun h => absurd h (List.cons_ne_nil _ _), fun h => absurd h.tag htag⟩

/-! ## What the reader stops at -/

theorem required_eq_ok_iff {place : Place} {e : Element} {key value : String} :
    required place e key = .ok value ↔ e.attribute? key = some value := by
  unfold required
  cases e.attribute? key <;> simp

theorem nameOf_of_required {place : Place} {e : Element} {name : String}
    (h : required place e "name" = .ok name) : nameOf e = name := by
  rw [nameOf, required_eq_ok_iff.mp h]
  rfl

theorem required_fault (place : Place) (e : Element) (key : String) :
    faultOf (required place e key) = (lacking place e key).head? := by
  unfold required lacking
  cases e.attribute? key <;> rfl

theorem direction_fault (place : Place) (default : Direction) (e : Element) :
    faultOf (direction place default e) =
      (misspelt e "direction" ["in", "out"] (.unknownDirection place)).head? := by
  unfold direction misspelt
  cases e.attribute? "direction" with
  | none => rfl
  | some d =>
    by_cases hin : d = "in"
    · subst hin
      rfl
    · by_cases hout : d = "out"
      · subst hout
        rfl
      · have hnone : d ∉ ["in", "out"] := by simp [hin, hout]
        simp only [if_neg hnone]
        rfl

theorem argument_fault (place : Place) (default : Direction) (e : Element) :
    faultOf (argument place default e) = (argumentFaults place e).head? :=
  faultOf_bind (direction_fault place default e) fun _ _ =>
    faultOf_bind_pure (required_fault place e "type") _

theorem arguments_fault (place : Place) (default : Direction) (e : Element) :
    faultOf (arguments place default e) =
      ((e.childrenTagged "arg").flatMap (argumentFaults place)).head? :=
  faultOf_mapM (argument_fault place default) _

theorem method_fault (interface : String) (e : Element) :
    faultOf (method interface e) = (memberFaults interface e).head? :=
  faultOf_bind (required_fault .document e "name") fun name hname =>
    faultOf_bind_pure (by rw [nameOf_of_required hname]; exact arguments_fault _ .input e) _

theorem signal_fault (interface : String) (e : Element) :
    faultOf (signal interface e) = (memberFaults interface e).head? :=
  faultOf_bind (required_fault .document e "name") fun name hname =>
    faultOf_bind_pure (by rw [nameOf_of_required hname]; exact arguments_fault _ .output e) _

theorem access?_eq_none_iff {word : String} :
    access? word = none ↔ word ∉ ["read", "write", "readwrite"] := by
  unfold access?
  split <;> simp_all

theorem property_fault (interface : String) (e : Element) :
    faultOf (property interface e) = (propertyFaults interface e).head? := by
  refine faultOf_bind (required_fault .document e "name") fun name hname =>
    faultOf_bind (required_fault .document e "access") fun word hword => ?_
  rw [nameOf_of_required hname, misspelt, required_eq_ok_iff.mp hword]
  cases haccess : access? word with
  | none =>
    simp only [if_neg (access?_eq_none_iff.mp haccess)]
    rfl
  | some access =>
    have hknown : word ∈ ["read", "write", "readwrite"] := by
      by_contra hunknown
      rw [access?_eq_none_iff.mpr hunknown] at haccess
      cases haccess
    simp only [if_pos hknown, List.nil_append]
    exact faultOf_bind_pure (required_fault .document e "type") _

theorem interface_fault (e : Element) :
    faultOf (interface e) = (interfaceFaults e).head? := by
  refine faultOf_bind (required_fault .document e "name") fun name hname => ?_
  rw [nameOf_of_required hname]
  exact faultOf_bind (faultOf_mapM (method_fault name) _) fun _ _ =>
    faultOf_bind (faultOf_mapM (property_fault name) _) fun _ _ =>
      faultOf_bind_pure (faultOf_mapM (signal_fault name) _) _

/-- **The reader stops at the first fault** of a tree. -/
theorem ofRoot_fault (root : Element) : faultOf (ofRoot root) = (faults root).head? := by
  unfold ofRoot faults considered
  by_cases hinterface : root.tag = "interface"
  · have htag : root.tag ∈ ["interface", "node"] := by simp [hinterface]
    rw [if_pos hinterface, if_pos htag, if_pos hinterface, List.flatMap_singleton]
    exact faultOf_bind_pure (interface_fault root) _
  · rw [if_neg hinterface, if_neg hinterface]
    by_cases hnode : root.tag = "node"
    · have htag : root.tag ∈ ["interface", "node"] := by simp [hnode]
      rw [if_pos hnode, if_pos htag]
      exact faultOf_mapM interface_fault _
    · have htag : root.tag ∉ ["interface", "node"] := by simp [hinterface, hnode]
      rw [if_neg hnode, if_neg htag]
      rfl

/-! ## What the reader gives -/

/-- An interface has the name that its element says. -/
theorem interface_name {e : Element} {i : Interface} (h : interface e = .ok i) :
    e.attribute? "name" = some i.name := by
  unfold interface at h
  obtain ⟨name, hname, h⟩ := bind_eq_ok_iff.mp h
  obtain ⟨methods, -, h⟩ := bind_eq_ok_iff.mp h
  obtain ⟨properties, -, h⟩ := bind_eq_ok_iff.mp h
  obtain ⟨signals, -, h⟩ := bind_eq_ok_iff.mp h
  cases h
  exact required_eq_ok_iff.mp hname

/-- The interfaces that are read are those of the elements considered, one for each. -/
theorem forall₂_of_ofRoot {root : Element} {interfaces : List Interface}
    (h : ofRoot root = .ok interfaces) :
    List.Forall₂ (fun e i => interface e = .ok i) (considered root) interfaces := by
  unfold ofRoot at h
  unfold considered
  split at h
  · rename_i htag
    obtain ⟨i, hi, h⟩ := bind_eq_ok_iff.mp h
    cases h
    rw [if_pos htag]
    exact .cons hi .nil
  · rename_i htag
    rw [if_neg htag]
    split at h
    · exact mapM_eq_ok_iff.mp h
    · cases h

/-- **The line for a fault** begins with the source of the document. -/
theorem message_eq (fault : Fault) (source : String) :
    fault.message source = source ++ ": " ++ fault.detail := by
  unfold Fault.message Fault.detail Place.message Place.detail
  rcases fault with _ | tag | ⟨_ | ⟨interface, member⟩, tag, key⟩ |
    ⟨_ | ⟨interface, member⟩, direction⟩ | ⟨interface, property, access⟩
  all_goals
    dsimp only
    rw [← String.toList_inj]
    simp

/-- **What is accepted, and what is reported otherwise.** A tree is accepted exactly if it is
valid. It gives one interface for each element considered, in their order. A tree that is not valid
is rejected for the first of its faults, and the line that tells of it names the source and then
says what is wrong. It makes no difference which text the tree was read from. -/
theorem ofRoot_diagnosis (root : Element) :
    (∀ text, Markup.Document.read? text = some root → parse text = ofRoot root) ∧
    ((∃ interfaces, ofRoot root = .ok interfaces) ↔ Valid root) ∧
    (∀ interfaces, ofRoot root = .ok interfaces →
      List.Forall₂ (fun e i => interface e = .ok i ∧ e.attribute? "name" = some i.name)
        (considered root) interfaces) ∧
    (¬Valid root → ∃ fault later, faults root = fault :: later ∧ ofRoot root = .error fault ∧
      ∀ source, fault.message source = source ++ ": " ++ fault.detail) := by
  refine ⟨fun text htext => ?_, ?_, fun interfaces h => ?_, fun hinvalid => ?_⟩
  · unfold parse
    rw [htext]
  · rw [← faultOf_eq_none_iff, ofRoot_fault, List.head?_eq_none_iff, faults_eq_nil_iff]
  · exact (forall₂_of_ofRoot h).imp fun e i hi => ⟨hi, interface_name hi⟩
  · cases hfaults : faults root with
    | nil => exact absurd (faults_eq_nil_iff.mp hfaults) hinvalid
    | cons fault later =>
      have hfault : faultOf (ofRoot root) = some fault := by rw [ofRoot_fault, hfaults]; rfl
      exact ⟨fault, later, rfl, faultOf_eq_some_iff.mp hfault, message_eq fault⟩

/-- An interface inside a node inside the root, with a signal before a property before a method.
Each of them has a fault, and the argument of the method has two. -/
def bentRoot : Element where
  tag := "node"
  content :=
    [.element "signal" [] [],
      .element "node" []
        [.element "interface" [("name", "org.example.Bent")]
          [.element "signal" [] [], .element "property" [("name", "Angle"), ("access", "")] [],
            .element "method" [("name", "Bend")]
              [.element "arg" [("type", "s")] [], .element "arg" [("direction", "up")] []]]]]

/-- A text with this tree. -/
def bentText : String :=
  "<node><signal/><node><interface name='org.example.Bent'><signal/>" ++
    "<property name='Angle' access=''/><method name='Bend'><arg type='s'/><arg direction='up'/>" ++
    "</method></interface></node></node>"

/-- The faults of the method come first, and the first of these is reported. -/
theorem bent_rejected :
    ∃ fault later, faults bentRoot = fault :: later ∧ later.length = 4 ∧
      parse bentText = .error fault ∧
      fault.message "bent.xml" =
        "bent.xml: org.example.Bent.Bend: unknown arg direction 'up'" := by
  have hfaults : faults bentRoot =
      [.unknownDirection (.member "org.example.Bent" "Bend") "up",
        .missingAttribute (.member "org.example.Bent" "Bend") "arg" "type",
        .unknownAccess "org.example.Bent" "Angle" "",
        .missingAttribute .document "property" "type",
        .missingAttribute .document "signal" "name"] := by
    decide +kernel
  have htree : Markup.Document.read? bentText = some bentRoot := by
    unfold Markup.Document.read? bentText
    simp only [String.toList_append]
    repeat rw [String.toList_ofList]
    decide +kernel
  obtain ⟨hparse, -, -, hrejected⟩ := ofRoot_diagnosis bentRoot
  have hinvalid : ¬Valid bentRoot := by
    rw [← faults_eq_nil_iff, hfaults]
    exact List.cons_ne_nil _ _
  obtain ⟨fault, later, hfirst, hreported, hmessage⟩ := hrejected hinvalid
  rw [hfaults] at hfirst
  cases hfirst
  exact ⟨_, _, hfaults, rfl, (hparse _ htree).trans hreported, (hmessage _).trans rfl⟩

end BusTraits.Introspection
