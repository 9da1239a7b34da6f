import BusTraits.Proofs.Trait.OneLine
import BusTraits.Trait.Source

/-!
# The functions in the text of a trait

Whoever reads the text of a trait line by line takes every line that starts like a function for
one. The functions of the trait are among these lines, in their order. There are others exactly if
a name brings them: comments and attributes have names in them as they are in the document, and a
name may hold a line feed with the start of a function behind it. Only the values of annotations
are written with their line feeds escaped.

* `Exposes`: what the functions and the names are in some lines of a trait, so that the names alone
  decide whether there are more function lines than functions;
* `Exposes.append`, `Exposes.flatMap`: the same for lines put together;
* `proxyLines_exposes`, `serverLines_exposes`: the lines of a declaration;
* **`functionLines_iff`**: the text of a trait.
-/

namespace BusTraits

open Text (linesStarting marker linesStarting_eq_nil_iff)

/-! ## Functions and names -/

/-- How the line of a function starts. -/
def Style.functionStart : Style → List Char
  | proxy => "  fn ".toList
  | server => "    fn ".toList

theorem Style.lineFeed_not_mem_functionStart (style : Style) : '\n' ∉ style.functionStart := by
  cases style <;> decide

theorem Style.functionStart_ne_nil (style : Style) : style.functionStart ≠ [] := by
  cases style <;> decide

/-- The function line of a declaration, if the style has one for it. -/
def Declaration.functionLines (style : Style) (d : Declaration) : List String :=
  match style, d.role with
  | .proxy, .method type | .proxy, .getter type => [d.proxyFunction type]
  | .proxy, .setter => [d.proxyFunction RustType.unit]
  | .proxy, .signal => []
  | .server, .method result => [d.serverFunction "&mut self" result]
  | .server, .getter _ | .server, .setter => [d.accessorFunction]
  | .server, .signal => [d.emitterFunction]

/-- The function lines for the declarations of a trait. -/
def Trait.functionLines (style : Style) (t : Trait) : List String :=
  t.declarations.flatMap (Declaration.functionLines style)

/-! A name is listed as it stands in a line, together with the blank after it if there is one. -/

def annotationNames (annotations : List Annotation) : List String :=
  annotations.flatMap fun a => [a.name ++ " "]

namespace Declaration

/-- The name on the bus, where it is given beside the identifier. -/
def wireNames (d : Declaration) : List String := if d.namesWire then [d.wireName] else []

def proxyNames (d : Declaration) : List String :=
  if d.isSignal then [] else (d.wireName ++ " ") :: d.wireNames

def parameterNames (d : Declaration) : List String :=
  d.parameters.flatMap fun p => p.annotations.flatMap fun a => [p.commentName, a.name ++ " "]

def propertyNames (d : Declaration) : List String := d.wireName :: annotationNames d.annotations

def serverNames (d : Declaration) : List String :=
  match d.role with
  | .method _ => annotationNames d.annotations ++ d.parameterNames ++ d.wireNames
  | .getter _ | .setter => d.propertyNames
  | .signal => annotationNames d.annotations ++ [d.wireName ++ " "] ++ d.wireNames

end Declaration

def Block.names : Block → List String
  | single d => d.serverNames
  | accessors g _ => g.propertyNames

/-- The names that the text of a trait has as they are in the document. -/
def Trait.names (style : Style) (t : Trait) : List String :=
  match style with
  | .proxy => [t.interface, t.name ++ " "] ++ t.declarations.flatMap Declaration.proxyNames
  | .server =>
    annotationNames t.annotations ++ [t.name] ++ (Block.group t.declarations).flatMap Block.names

/-! ## Lines with names in them -/

/-- All lines that start with `start` in texts that follow one another. -/
def linesAmong (start : List Char) (lines : List String) : List (List Char) :=
  lines.flatMap fun line => linesStarting start line.toList

/-- The lines have the given functions in them, and others exactly if one of the names has a line
feed with the start of a function behind it. -/
structure Exposes (style : Style) (lines functions names : List String) : Prop where
  sublist : (functions.map String.toList).Sublist (linesAmong style.functionStart lines)
  exact_iff : linesAmong style.functionStart lines = functions.map String.toList ↔
    ∀ name ∈ names, ¬marker style.functionStart <:+: name.toList

namespace Exposes

variable {style : Style} {lines functions names lines' functions' names' : List String}

theorem nil : Exposes style [] [] [] :=
  ⟨List.Sublist.slnil, iff_of_true rfl fun _ h => absurd h List.not_mem_nil⟩

theorem append (h : Exposes style lines functions names)
    (h' : Exposes style lines' functions' names') :
    Exposes style (lines ++ lines') (functions ++ functions') (names ++ names') := by
  have hlines : linesAmong style.functionStart (lines ++ lines') =
      linesAmong style.functionStart lines ++ linesAmong style.functionStart lines' :=
    List.flatMap_append
  refine ⟨?_, ?_⟩
  · rw [hlines, List.map_append]
    exact h.sublist.append h'.sublist
  · rw [hlines, List.map_append, List.forall_mem_append, ← h.exact_iff, ← h'.exact_iff]
    constructor
    · -- neither part has fewer lines than functions, so none has more
      intro heq
      have hlength := congrArg List.length heq
      rw [List.length_append, List.length_append] at hlength
      have hleft := h.sublist.length_le
      have hright := h'.sublist.length_le
      exact ⟨(h.sublist.eq_of_length (by omega)).symm, (h'.sublist.eq_of_length (by omega)).symm⟩
    · rintro ⟨hleft, hright⟩
      rw [hleft, hright]

theorem flatMap {α : Type} {ls fs ns : α → List String} {xs : List α}
    (h : ∀ x ∈ xs, Exposes style (ls x) (fs x) (ns x)) :
    Exposes style (xs.flatMap ls) (xs.flatMap fs) (xs.flatMap ns) := by
  induction xs with
  | nil => exact nil
  | cons x xs ih =>
    obtain ⟨hx, hxs⟩ := List.forall_mem_cons.mp h
    exact hx.append (ih hxs)

/-- A function, on one line. -/
theorem function {line : String} (hstarts : style.functionStart <+: line.toList)
    (hline : IsOneLine line) : Exposes style [line] [line] [] := by
  have hlines : linesAmong style.functionStart [line] = [line.toList] := by
    rw [linesAmong, List.flatMap_singleton, Text.linesStarting_of_not_mem hline, if_pos hstarts]
  exact ⟨by rw [hlines]; exact List.Sublist.refl _,
    iff_of_true hlines fun _ h => absurd h List.not_mem_nil⟩

/-- Any other line. -/
theorem other {line : String} (hstarts : ¬style.functionStart <+: line.toList)
    (hmarker : ¬marker style.functionStart <:+: line.toList ↔
      ∀ name ∈ names, ¬marker style.functionStart <:+: name.toList) :
    Exposes style [line] [] names := by
  refine ⟨List.nil_sublist _, ?_⟩
  rw [linesAmong, List.flatMap_singleton, List.map_nil,
    linesStarting_eq_nil_iff style.lineFeed_not_mem_functionStart, and_iff_right hstarts, hmarker]

end Exposes

/-! ## Names between fixed words -/

/-- What begins a line and shows that it is no function. -/
def Opens (style : Style) (before : String) : Prop :=
  IsOneLine before ∧ ¬style.functionStart <+: before.toList ∧
    ¬before.toList <+: style.functionStart

/-- What ends a line and has nothing to do with the start of a function. -/
def Closes (style : Style) (after : String) : Prop :=
  IsOneLine after ∧ ∀ c ∈ after.toList.head?, c ∉ marker style.functionStart

instance (style : Style) (before : String) : Decidable (Opens style before) :=
  inferInstanceAs (Decidable (_ ∧ _ ∧ _))

instance (style : Style) (after : String) : Decidable (Closes style after) :=
  haveI := Option.decidableForallMem (p := fun c => c ∉ marker style.functionStart)
    after.toList.head?
  instDecidableAnd

section

variable {style : Style} {before after : String}

theorem Opens.append (h : Opens style before) {rest : String} (hrest : IsOneLine rest) :
    Opens style (before ++ rest) := by
  obtain ⟨hline, hstart, hbefore⟩ := h
  refine ⟨isOneLine_append.mpr ⟨hline, hrest⟩, ?_, ?_⟩
  · rw [String.toList_append]
    intro hprefix
    rcases List.prefix_or_prefix_of_prefix hprefix (List.prefix_append _ _) with h | h
    · exact hstart h
    · exact hbefore h
  · rw [String.toList_append]
    exact fun hprefix => hbefore ((List.prefix_append _ _).trans hprefix)

theorem Opens.not_starting (h : Opens style before) (rest : String) :
    ¬style.functionStart <+: (before ++ rest).toList := by
  rw [String.toList_append]
  intro hprefix
  rcases List.prefix_or_prefix_of_prefix hprefix (List.prefix_append _ _) with h' | h'
  · exact h.2.1 h'
  · exact h.2.2 h'

/-- Such an end does not complete what a text before it has begun. -/
theorem marker_infix_closes (hafter : Closes style after) (text : List Char) :
    marker style.functionStart <:+: text ++ after.toList ↔
      marker style.functionStart <:+: text := by
  obtain ⟨hline, hhead⟩ := hafter
  unfold IsOneLine at hline
  cases hrest : after.toList with
  | nil => rw [List.append_nil]
  | cons c rest =>
    rw [hrest] at hline hhead
    have hc : c ∉ marker style.functionStart := hhead c rfl
    rw [Text.infix_append_cons hc, or_iff_left]
    exact Text.marker_absent fun h => hline (List.mem_cons_of_mem c h)

/-- Between such words, only the name can bring a function. -/
theorem marker_infix_between (hbefore : IsOneLine before) (hafter : Closes style after)
    (name : String) : marker style.functionStart <:+: (before ++ name ++ after).toList ↔
      marker style.functionStart <:+: name.toList := by
  rw [String.toList_append, marker_infix_closes hafter, String.toList_append,
    Text.marker_infix_append_of_not_mem hbefore]

/-- Of two names with a word between them, either can bring one. -/
theorem marker_infix_pair (hbefore : IsOneLine before) {middle : String} {c : Char}
    {rest : List Char} (hmiddle : middle.toList = c :: rest) (hclosed : Closes style middle)
    (hafter : Closes style after) (name name' : String) :
    marker style.functionStart <:+: (before ++ name ++ middle ++ name' ++ after).toList ↔
      marker style.functionStart <:+: name.toList ∨
        marker style.functionStart <:+: name'.toList := by
  obtain ⟨hline, hhead⟩ := hclosed
  unfold IsOneLine at hline
  rw [hmiddle] at hline hhead
  have hc : c ∉ marker style.functionStart := hhead c rfl
  have hrest : '\n' ∉ rest := fun h => hline (List.mem_cons_of_mem c h)
  rw [String.toList_append, marker_infix_closes hafter, String.toList_append,
    String.toList_append, String.toList_append, hmiddle, List.append_assoc, List.cons_append,
    Text.infix_append_cons hc, Text.marker_infix_append_of_not_mem hbefore,
    Text.marker_infix_append_of_not_mem hrest]

namespace Exposes

/-- A line without names. -/
theorem fixed {line : String} (hline : IsOneLine line)
    (hstarts : ¬style.functionStart <+: line.toList) : Exposes style [line] [] [] :=
  other hstarts (iff_of_true (Text.marker_absent hline) fun _ h => absurd h List.not_mem_nil)

/-- A line with one name. -/
theorem named (hbefore : Opens style before) (name : String) (hafter : Closes style after) :
    Exposes style [before ++ name ++ after] [] [name] := by
  refine other ?_ ?_
  · rw [String.append_assoc]
    exact hbefore.not_starting _
  · rw [marker_infix_between hbefore.1 hafter, List.forall_mem_singleton]

/-- A line that ends with a name. -/
theorem ending (hbefore : Opens style before) (name : String) :
    Exposes style [before ++ name] [] [name] := by
  have hempty : Closes style "" := ⟨by decide, nofun⟩
  rw [← @String.append_empty (before ++ name)]
  exact named hbefore name hempty

/-- A line with one name and a blank behind it. -/
theorem spaced (hbefore : Opens style before) (name : String) (hafter : Closes style after) :
    Exposes style [before ++ name ++ (" " ++ after)] [] [name ++ " "] := by
  rw [← String.append_assoc, @String.append_assoc before]
  exact named hbefore (name ++ " ") hafter

/-- A line with two names. -/
theorem pair (hbefore : Opens style before) {middle : String} {c : Char}
    {rest : List Char} (hmiddle : middle.toList = c :: rest) (hclosed : Closes style middle)
    (hafter : Closes style after) (name name' : String) :
    Exposes style [before ++ name ++ middle ++ name' ++ after] [] [name, name'] := by
  refine other ?_ ?_
  · simp only [String.append_assoc]
    exact hbefore.not_starting _
  · rw [marker_infix_pair hbefore.1 hmiddle hclosed hafter, not_or]
    simp

/-- An empty line. -/
theorem blank : Exposes style [""] [] [] :=
  fixed (by decide) fun h => style.functionStart_ne_nil (List.prefix_nil.mp h)

/-- Lines with names, one for each item of a list. -/
theorem map {α : Type} {l : α → String} {ns : α → List String} {xs : List α}
    (h : ∀ x ∈ xs, Exposes style [l x] [] (ns x)) :
    Exposes style (xs.map l) [] (xs.flatMap ns) := by
  induction xs with
  | nil => exact nil
  | cons x xs ih =>
    obtain ⟨hx, hxs⟩ := List.forall_mem_cons.mp h
    exact hx.append (ih hxs)

end Exposes

end

/-! ## Clients -/

namespace Declaration

variable {d : Declaration}

/-- The line for the name on the bus, if there is one. -/
theorem attribute_exposes {style : Style} {line other : String}
    (hnamed : Exposes style [line] [] [d.wireName]) (hother : Exposes style [other] [] []) :
    Exposes style [if d.namesWire then line else other] [] d.wireNames := by
  unfold wireNames
  split
  · exact hnamed
  · exact hother

theorem optional_exposes {style : Style} {line : String}
    (hnamed : Exposes style [line] [] [d.wireName]) :
    Exposes style (if d.namesWire then [line] else []) [] d.wireNames := by
  unfold wireNames
  split
  · exact hnamed
  · exact .nil

/-- The function of a client and the empty line after it. -/
theorem proxyFunction_exposes (hd : d.OnOneLine) {type : String} (htype : IsOneLine type) :
    Exposes .proxy [d.proxyFunction type, ""] [d.proxyFunction type] [] := by
  refine Exposes.append (.function ?_ (proxyFunction_isOneLine hd htype)) .blank
  unfold proxyFunction
  simp only [String.append_assoc]
  rw [String.toList_append]
  exact List.prefix_append _ _

theorem proxyAttribute_exposes : Exposes .proxy [d.proxyAttribute] [] d.wireNames :=
  attribute_exposes (.named (by decide) d.wireName (by decide)) (.fixed (by decide) (by decide))

theorem proxyLines_exposes (hd : d.OnOneLine) :
    Exposes .proxy d.proxyLines (d.functionLines .proxy) d.proxyNames := by
  unfold proxyLines functionLines proxyNames isSignal
  have hresult := hd.result
  cases hrole : d.role with
  | method result =>
    rw [hrole] at hresult
    have hcomment : Exposes .proxy ["  /// " ++ d.wireName ++ (" " ++ "method")] []
        [d.wireName ++ " "] :=
      .spaced (by decide) d.wireName (by decide)
    have hname : Exposes .proxy
        (if d.namesWire then ["  #[zbus(name = \"" ++ d.wireName ++ "\")]"] else []) []
          d.wireNames :=
      optional_exposes (.named (by decide) d.wireName (by decide))
    simpa using (hcomment.append hname).append (proxyFunction_exposes hd (hresult _ rfl))
  | getter type =>
    rw [hrole] at hresult
    have hcomment : Exposes .proxy ["  /// " ++ d.wireName ++ (" " ++ "property")] []
        [d.wireName ++ " "] :=
      .spaced (by decide) d.wireName (by decide)
    simpa using (hcomment.append proxyAttribute_exposes).append
      (proxyFunction_exposes hd (hresult _ rfl))
  | setter =>
    rw [hrole] at hresult
    have hcomment : Exposes .proxy ["  /// Set the " ++ d.wireName ++ (" " ++ "property")] []
        [d.wireName ++ " "] :=
      .spaced (by decide) d.wireName (by decide)
    simpa using (hcomment.append proxyAttribute_exposes).append
      (proxyFunction_exposes hd (hresult _ rfl))
  | signal => exact .nil

end Declaration

/-! ## Servers -/

theorem escapeLineFeeds_isOneLine (text : String) : IsOneLine (escapeLineFeeds text) := by
  refine isOneLine_ofList.mpr fun h => ?_
  obtain ⟨c, -, hc⟩ := List.mem_flatMap.mp h
  split at hc
  · exact absurd hc (by decide)
  · rename_i hfeed
    exact hfeed (List.mem_singleton.mp hc).symm

/-- What comes after the name of an annotation. -/
def Annotation.rest (a : Annotation) : String := "= \"" ++ escapeLineFeeds a.value ++ "\""

theorem Annotation.comment_eq (a : Annotation) :
    a.comment = "[annotation] " ++ a.name ++ (" " ++ a.rest) := by
  have hblank : " = \"" = " " ++ "= \"" := rfl
  show "[annotation] " ++ a.name ++ " = \"" ++ escapeLineFeeds a.value ++ "\"" =
    "[annotation] " ++ a.name ++ (" " ++ ("= \"" ++ escapeLineFeeds a.value ++ "\""))
  rw [hblank]
  simp only [String.append_assoc]

theorem Annotation.rest_closes (a : Annotation) : Closes .server a.rest := by
  unfold rest
  refine ⟨?_, ?_⟩
  · rw [isOneLine_append, isOneLine_append]
    exact ⟨⟨by decide, escapeLineFeeds_isOneLine a.value⟩, by decide⟩
  · rw [String.append_assoc, String.toList_append]
    rintro c ⟨⟩
    decide

theorem annotationComments_exposes (indent : String)
    (hindent : Opens .server (indent ++ "/// ")) (annotations : List Annotation) :
    Exposes .server (annotationComments indent annotations) [] (annotationNames annotations) := by
  refine .map fun a _ => ?_
  rw [a.comment_eq, ← String.append_assoc, ← @String.append_assoc (indent ++ "/// ")]
  exact .spaced (hindent.append (by decide)) a.name a.rest_closes

/-- The comment for an annotation of a parameter has the names of both. -/
theorem parameterComment_exposes (p : Parameter) (a : Annotation) :
    Exposes .server ["    " ++ "/// [arg: " ++ p.commentName ++ "] " ++ a.comment] []
      [p.commentName, a.name ++ " "] := by
  have hline : "    " ++ "/// [arg: " ++ p.commentName ++ "] " ++ a.comment =
      "    /// [arg: " ++ p.commentName ++ "] [annotation] " ++ (a.name ++ " ") ++ a.rest := by
    have hbefore : "    " ++ "/// [arg: " = "    /// [arg: " := rfl
    have hmiddle : "] " ++ "[annotation] " = "] [annotation] " := rfl
    rw [a.comment_eq, hbefore, ← hmiddle]
    simp only [String.append_assoc]
  rw [hline]
  exact .pair (by decide) rfl (by decide) a.rest_closes _ _

namespace Declaration

variable {d : Declaration}

theorem parameterComments_exposes :
    Exposes .server (Parameter.comments "    " d.parameters) [] d.parameterNames := by
  have hall : ∀ p ∈ d.parameters, Exposes .server
      (p.annotations.map fun a => "    " ++ "/// [arg: " ++ p.commentName ++ "] " ++ a.comment)
      ((fun _ => []) p)
      (p.annotations.flatMap fun a => [p.commentName, a.name ++ " "]) :=
    fun p _ => .map fun a _ => parameterComment_exposes p a
  have hnone : (d.parameters.flatMap fun _ => ([] : List String)) = [] :=
    List.flatMap_eq_nil_iff.mpr fun _ _ => rfl
  have hlines := Exposes.flatMap hall
  rwa [hnone] at hlines

theorem wireNameComment_exposes : Exposes .server d.wireNameComment [] d.wireNames :=
  optional_exposes (.ending (by decide) d.wireName)

/-- The function of a server. -/
theorem serverFunction_exposes (hd : d.OnOneLine) (receiver : String) {type : String}
    (hreceiver : IsOneLine receiver) (htype : IsOneLine type) :
    Exposes .server [d.serverFunction receiver type] [d.serverFunction receiver type] [] := by
  refine .function ?_ (serverFunction_isOneLine hreceiver hd htype)
  unfold serverFunction
  simp only [String.append_assoc]
  rw [String.toList_append]
  exact List.prefix_append _ _

theorem accessorFunction_exposes (hd : d.OnOneLine) :
    Exposes .server [d.accessorFunction] [d.accessorFunction] [] := by
  have hresult := hd.result
  unfold accessorFunction
  cases hrole : d.role with
  | getter type =>
    rw [hrole] at hresult
    exact serverFunction_exposes hd "&self" (by decide) (hresult _ rfl)
  | method _ | setter | signal =>
    exact serverFunction_exposes hd "&mut self" (by decide) (by decide)

theorem emitterFunction_exposes (hd : d.OnOneLine) :
    Exposes .server [d.emitterFunction] [d.emitterFunction] [] := by
  refine .function ?_ (emitterFunction_isOneLine hd)
  unfold emitterFunction
  simp only [String.append_assoc]
  rw [String.toList_append]
  exact List.prefix_append _ _

theorem signalBody_closes (hd : d.OnOneLine) : Closes .server ("with body " ++ d.signalBody) := by
  have hnames : ∀ name ∈ d.parameters.map (·.identifier), IsOneLine name := by
    intro name hname
    obtain ⟨p, hp, rfl⟩ := List.mem_map.mp hname
    exact (hd.parameters p hp).identifier
  have hbody : IsOneLine d.signalBody := by
    unfold signalBody
    split
    · rename_i p hparameters
      rw [hparameters] at hnames
      simp only [isOneLine_append]
      exact ⟨⟨by decide, hnames _ List.mem_cons_self⟩, by decide⟩
    · simp only [isOneLine_append]
      exact ⟨⟨by decide, isOneLine_intercalate (by decide) hnames⟩, by decide⟩
  refine ⟨isOneLine_append.mpr ⟨by decide, hbody⟩, ?_⟩
  rw [String.toList_append]
  rintro c ⟨⟩
  decide

theorem propertyLines_exposes {functions : List String}
    (hfunctions : Exposes .server functions functions []) :
    Exposes .server (d.propertyLines functions) functions d.propertyNames := by
  have hcomment : Exposes .server ["    /// property: " ++ d.wireName] [] [d.wireName] :=
    .ending (by decide) d.wireName
  have hannotations := annotationComments_exposes "    " (by decide) d.annotations
  unfold propertyLines propertyNames
  simpa using ((hcomment.append hannotations).append hfunctions).append .blank

theorem serverLines_exposes (hd : d.OnOneLine) :
    Exposes .server d.serverLines (d.functionLines .server) d.serverNames := by
  have hresult := hd.result
  have hannotations := annotationComments_exposes "    " (by decide) d.annotations
  unfold serverLines functionLines serverNames
  cases hrole : d.role with
  | method result =>
    rw [hrole] at hresult
    have hfunction := serverFunction_exposes hd "&mut self" (by decide) (hresult _ rfl)
    simpa using (((hannotations.append parameterComments_exposes).append
      wireNameComment_exposes).append hfunction).append .blank
  | getter _ | setter => exact propertyLines_exposes (accessorFunction_exposes hd)
  | signal =>
    have hcomment : Exposes .server
        ["    /// emits " ++ d.wireName ++ (" " ++ ("with body " ++ d.signalBody))] []
        [d.wireName ++ " "] :=
      .spaced (by decide) d.wireName (signalBody_closes hd)
    have hblank : " " ++ ("with body " ++ d.signalBody) = " with body " ++ d.signalBody := by
      rw [← String.append_assoc]
      rfl
    rw [hblank, ← String.append_assoc] at hcomment
    simpa using (((hannotations.append hcomment).append wireNameComment_exposes).append
      (emitterFunction_exposes hd)).append .blank

end Declaration

/-! ## Traits -/

theorem Declaration.functionLines_of_accessor {d : Declaration}
    (h : d.isGetter = true ∨ d.isSetter = true) :
    d.functionLines .server = [d.accessorFunction] := by
  unfold isGetter isSetter at h
  unfold functionLines
  cases hrole : d.role with
  | getter _ | setter => rfl
  | method _ | signal =>
    rw [hrole] at h
    simp at h

theorem Block.lines_exposes {ds : List Declaration} (hds : ∀ d ∈ ds, d.OnOneLine) :
    ∀ b ∈ Block.group ds, Exposes .server b.lines
      (b.declarations.flatMap (Declaration.functionLines .server)) b.names := by
  intro b hb
  have hb_ds : ∀ d ∈ b.declarations, d.OnOneLine := by
    intro d hd
    rw [← Block.flatMap_group ds] at hds
    exact hds d (List.mem_flatMap.mpr ⟨b, hb, hd⟩)
  cases b with
  | single d =>
    have hlines := Declaration.serverLines_exposes (hb_ds d List.mem_cons_self)
    simpa [Block.lines, Block.declarations, Block.names] using hlines
  | accessors g s =>
    have hpair := Block.isPair_of_mem_group hb
    simp only [Block.isPair, Bool.and_eq_true] at hpair
    have hg := Declaration.accessorFunction_exposes (hb_ds g List.mem_cons_self)
    have hs := Declaration.accessorFunction_exposes (hb_ds s (by simp [Block.declarations]))
    have hlines := Declaration.propertyLines_exposes (d := g) (hg.append hs)
    have hfunctions : (accessors g s).declarations.flatMap (Declaration.functionLines .server) =
        [g.accessorFunction, s.accessorFunction] := by
      rw [Block.declarations, List.flatMap_cons, List.flatMap_singleton,
        Declaration.functionLines_of_accessor (Or.inl hpair.1.1),
        Declaration.functionLines_of_accessor (Or.inr hpair.1.2)]
      rfl
    rw [hfunctions]
    exact hlines

namespace Trait

variable {t : Trait}

theorem proxyLines_exposes (h : ∀ d ∈ t.declarations, d.OnOneLine) :
    Exposes .proxy t.proxyLines (t.functionLines .proxy) (t.names .proxy) := by
  have hattribute : Exposes .proxy
      ["#[proxy(interface = \"" ++ t.interface ++ "\", assume_defaults = true)]"] []
      [t.interface] :=
    .named (by decide) t.interface (by decide)
  have htitle : Exposes .proxy ["pub trait " ++ t.name ++ (" " ++ "\x7b")] [] [t.name ++ " "] :=
    .spaced (by decide) t.name (by decide)
  have hmembers := Exposes.flatMap fun d hd => Declaration.proxyLines_exposes (h d hd)
  have hend : Exposes .proxy ["\x7d"] [] [] := .fixed (by decide) (by decide)
  unfold proxyLines functionLines names
  simpa using ((hattribute.append htitle).append hmembers).append hend

theorem serverLines_exposes (h : ∀ d ∈ t.declarations, d.OnOneLine) :
    Exposes .server t.serverLines (t.functionLines .server) (t.names .server) := by
  have hannotations := annotationComments_exposes "" (by decide) t.annotations
  have htitle : Exposes .server ["pub trait " ++ t.name ++ "Server \x7b"] [] [t.name] :=
    .named (by decide) t.name (by decide)
  have hmembers := Exposes.flatMap (Block.lines_exposes h)
  rw [← List.flatMap_assoc, Block.flatMap_group] at hmembers
  have hend : Exposes .server ["\x7d"] [] [] := .fixed (by decide) (by decide)
  unfold serverLines functionLines names
  simpa using ((hannotations.append htitle).append hmembers).append hend

end Trait

/-- The lines of a text that is put together from lines. -/
theorem linesStarting_sourceText {start : List Char} (hstart : start ≠ []) (lines : List String) :
    linesStarting start (sourceText lines).toList = linesAmong start lines := by
  have hfeed : "\n".toList = ['\n'] := rfl
  rw [sourceText, String.toList_append, String.toList_intercalate, hfeed,
    Text.linesStarting_ended hstart, List.flatMap_map]
  rfl

theorem Trait.source_exposes (style : Style) {t : Trait} (h : ∀ d ∈ t.declarations, d.OnOneLine) :
    ∃ lines, t.source style = sourceText lines ∧
      Exposes style lines (t.functionLines style) (t.names style) := by
  cases style with
  | proxy => exact ⟨t.proxyLines, rfl, t.proxyLines_exposes h⟩
  | server => exact ⟨t.serverLines, rfl, t.serverLines_exposes h⟩

/-- **The functions in the text of a trait.** An interface that can be assembled has a text. Of the
lines of this text, those that start like a function include the functions of the trait, in their
order. There is no other exactly if no name that is written as it is in the document has a line
feed in it with the start of a function behind it. -/
theorem functionLines_iff {style : Style} {i : Interface} {t : Trait}
    (h : (style.assembler.assemble i).result = .ok t) :
    ∃ source, style.generate i = .ok source ∧
      ((t.functionLines style).map String.toList).Sublist
        (linesStarting style.functionStart source.text.toList) ∧
      (linesStarting style.functionStart source.text.toList =
          (t.functionLines style).map String.toList ↔
        ∀ name ∈ t.names style, ¬marker style.functionStart <:+: name.toList) := by
  have hcontext : style.assembler.context.OnOneLine := by
    cases style <;> exact ⟨by decide, by decide⟩
  have hsignal : style.assembler.signalContext.OnOneLine := by
    cases style <;> exact ⟨by decide, by decide⟩
  obtain ⟨lines, hlines, hexposes⟩ :=
    Trait.source_exposes style (Assembler.assemble_isOneLine hcontext hsignal h)
  refine ⟨⟨t.source style, t.remarks⟩, by rw [Style.generate, h]; rfl, ?_⟩
  rw [hlines, linesStarting_sourceText style.functionStart_ne_nil]
  exact ⟨hexposes.sublist, hexposes.exact_iff⟩

/-- A server in which every kind of name has a line feed, or looks like a function without one. -/
def vault : Interface where
  name := "org.example.Va\nult"
  methods := [⟨"Open\nfn ", [⟨some "by\n    ", "s", .input, [⟨"no\nte", "\n    fn x"⟩]⟩],
    [⟨"    fn ", "\n    fn y"⟩]⟩]
  properties := [⟨"Level\n", "u", .readWrite, [⟨"\n", ""⟩]⟩]
  signals := [⟨"    fn ", [⟨some "at", "t", .output, []⟩], []⟩]
  annotations := [⟨"kind\n  ", "\n    fn z"⟩]

/-- The lines that start like a function are the four functions of the server. -/
theorem vault_functionLines :
    ∃ t source, (Style.server.assembler.assemble vault).result = .ok t ∧
      Style.server.generate vault = .ok source ∧ (t.functionLines .server).length = 4 ∧
      linesStarting Style.server.functionStart source.text.toList =
        (t.functionLines .server).map String.toList := by
  have hrun : (Style.server.assembler.assemble vault).result.toOption.any (fun t =>
      (t.functionLines .server).length == 4 && (t.names .server).all fun name =>
        !decide (marker Style.server.functionStart <:+: name.toList)) = true := by
    decide +kernel
  obtain ⟨t, ht, htest⟩ := Assembler.exists_trait hrun
  rw [Bool.and_eq_true, beq_iff_eq, List.all_eq_true] at htest
  obtain ⟨source, hsource, -, hexact⟩ := functionLines_iff ht
  exact ⟨t, source, ht, hsource, htest.1,
    hexact.mpr fun name hname => by simpa using htest.2 name hname⟩

/-- A client with a method whose name has a function in it. -/
def locker : Interface where
  name := "org.example.Locker"
  methods := [⟨"Open\n  fn hidden(&self);//", [], []⟩]

/-- There are two lines that start like a function, for a trait with one function. -/
theorem locker_hidden :
    ∃ t source, (Style.proxy.assembler.assemble locker).result = .ok t ∧
      Style.proxy.generate locker = .ok source ∧
      t.functionLines .proxy = ["  fn open_fn_hidden_self(&self) -> zbus::Result<()>;"] ∧
      linesStarting Style.proxy.functionStart source.text.toList =
        ["  fn hidden(&self);// method".toList,
          "  fn open_fn_hidden_self(&self) -> zbus::Result<()>;".toList] := by
  have hrun : (Style.proxy.assembler.assemble locker).result.toOption.any (fun t =>
      t.functionLines .proxy == ["  fn open_fn_hidden_self(&self) -> zbus::Result<()>;"] &&
        linesAmong Style.proxy.functionStart t.proxyLines ==
          ["  fn hidden(&self);// method".toList,
            "  fn open_fn_hidden_self(&self) -> zbus::Result<()>;".toList]) = true := by
    decide +kernel
  obtain ⟨t, ht, htest⟩ := Assembler.exists_trait hrun
  simp only [Bool.and_eq_true, beq_iff_eq] at htest
  have hlines := linesStarting_sourceText Style.proxy.functionStart_ne_nil t.proxyLines
  exact ⟨t, ⟨t.source .proxy, t.remarks⟩, ht, by rw [Style.generate, ht]; rfl, htest.1,
    hlines.trans htest.2⟩

end BusTraits
