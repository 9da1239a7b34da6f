import BusTraits.Markup.Node

/-!
# The elements of a tree

* `Node.same_iff`: the comparison of two trees is equality, which makes it decidable;
* `lookup_eq_of_perm`: the order of attributes does not matter;
* `Element.descendants_eq`: the elements inside an element are its children and what is inside
  these;
* `Element.children_withChildren`: an element that is made of its children.
-/

namespace BusTraits.Markup

/-! ## Comparing trees -/

namespace Node

mutual

/-- Whether two pieces of content have the same tree. -/
def same : Node → Node → Bool
  | text s, text t => s == t
  | element tag attributes content, element tag' attributes' content' =>
    tag == tag' && attributes == attributes' && sameContent content content'
  | _, _ => false

/-- Whether two lists of content have the same trees in the same order. -/
def sameContent : List Node → List Node → Bool
  | [], [] => true
  | n :: ns, m :: ms => same n m && sameContent ns ms
  | _, _ => false

end

mutual

theorem same_iff (n m : Node) : same n m = true ↔ n = m := by
  cases n <;> cases m <;> simp [same, sameContent_iff, and_assoc]

theorem sameContent_iff (ns ms : List Node) : sameContent ns ms = true ↔ ns = ms := by
  cases ns <;> cases ms <;> simp [sameContent, same_iff, sameContent_iff]

end

end Node

instance : DecidableEq Node := fun n m => decidable_of_iff _ (Node.same_iff n m)

deriving instance DecidableEq for Element

/-! ## Attributes -/

/-- Attributes with different names may change places. -/
theorem lookup_eq_of_perm {l₁ l₂ : List (String × String)} (h : l₁.Perm l₂)
    (hnodup : (l₁.map Prod.fst).Nodup) (key : String) : l₁.lookup key = l₂.lookup key := by
  induction h with
  | nil => rfl
  | cons x _ ih =>
    rw [List.map_cons, List.nodup_cons] at hnodup
    rw [List.lookup_cons, List.lookup_cons, ih hnodup.2]
  | swap x y l =>
    obtain ⟨k, v⟩ := x
    obtain ⟨k', v'⟩ := y
    have hk : k' ≠ k := by
      rintro rfl
      exact (List.nodup_cons.mp hnodup).1 List.mem_cons_self
    simp only [List.lookup_cons]
    by_cases hkey : key = k
    · rw [hkey, beq_false_of_ne hk.symm]
    · rw [beq_false_of_ne hkey]
  | trans h₁ _ ih₁ ih₂ => exact (ih₁ hnodup).trans (ih₂ ((h₁.map _).nodup_iff.mp hnodup))

/-! ## Descendants -/

theorem Node.elementsOf_eq (content : List Node) :
    Node.elementsOf content =
      (content.filterMap Node.element?).flatMap Element.descendants := by
  induction content with
  | nil => simp [Node.elementsOf]
  | cons n ns ih =>
    rw [Node.elementsOf, ih]
    cases n with
    | text value => rw [List.filterMap_cons_none rfl, Node.elements, List.nil_append]
    | element tag attributes content =>
      rw [List.filterMap_cons_some (f := Node.element?) rfl, List.flatMap_cons, Node.elements,
        Element.descendants]

namespace Element

theorem descendants_eq (e : Element) :
    e.descendants = e :: e.children.flatMap Element.descendants := by
  unfold children
  rw [← Node.elementsOf_eq]
  rfl

/-- An element without text. -/
def withChildren (tag : String) (attributes : List (String × String)) (children : List Element) :
    Element :=
  ⟨tag, attributes, children.map toNode⟩

@[simp]
theorem children_withChildren (tag : String) (attributes : List (String × String))
    (children : List Element) : (withChildren tag attributes children).children = children := by
  unfold Element.children withChildren
  rw [List.filterMap_map]
  exact List.filterMap_some

end Element

end BusTraits.Markup
