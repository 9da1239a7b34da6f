import BusTraits.RustType

/-!
# What a Rust type tells of a type

Two things are lost when a type is written as a Rust type: an unknown type becomes a variant, and a
struct of one field becomes that field. `collapsed` does both to a type beforehand, at every depth.
Nothing else is lost, whatever the lifetime is. The text of a collapsed type can be read from left
to right: its first characters, up to the lifetime, tell how the type is made (`Opening`), and where
its parts end is told by the parts.

* `toRust_collapsed`: a type and its collapsed form are written in the same way;
* `opening_eq`: texts that agree from the beginning on are of types made in the same way;
* `rustText_cancel`: no text of a collapsed type is the beginning of another one;
* **`toRust_eq_iff`**: two types have the same Rust type exactly if their collapsed forms are equal.
-/

namespace BusTraits

namespace BusType

/-! ## Collapsing -/

/-- The struct with these fields, or the field if it is only one. -/
def ofFields : List BusType → BusType
  | [t] => t
  | ts => struct ts

mutual

/-- A type with a variant for each unknown part, and each struct of one field replaced by it. -/
def collapsed : BusType → BusType
  | prim p => prim p
  | array t => array (collapsed t)
  | dict k v => dict (collapsed k) (collapsed v)
  | struct ts => ofFields (collapsedFields ts)
  | unknown => prim .variant

/-- The fields of a struct, each of them collapsed. -/
def collapsedFields : List BusType → List BusType
  | [] => []
  | t :: ts => collapsed t :: collapsedFields ts

end

mutual

/-- Whether there is nothing to collapse in a type. -/
def isCollapsed : BusType → Bool
  | prim _ => true
  | array t => isCollapsed t
  | dict k v => isCollapsed k && isCollapsed v
  | struct ts => ts.length != 1 && areCollapsed ts
  | unknown => false

/-- Whether there is nothing to collapse in the fields of a struct. -/
def areCollapsed : List BusType → Bool
  | [] => true
  | t :: ts => isCollapsed t && areCollapsed ts

end

theorem isCollapsed_ofFields {ts : List BusType} (h : areCollapsed ts = true) :
    (ofFields ts).isCollapsed = true := by
  match ts with
  | [] => rfl
  | [t] =>
    rw [areCollapsed, Bool.and_eq_true] at h
    exact h.1
  | t :: u :: ts =>
    rw [ofFields, isCollapsed, h]
    · rfl
    · exact fun _ h => by cases h

mutual

theorem isCollapsed_collapsed (t : BusType) : t.collapsed.isCollapsed = true := by
  cases t with
  | prim p => rfl
  | array t =>
    rw [collapsed, isCollapsed]
    exact isCollapsed_collapsed t
  | dict k v =>
    rw [collapsed, isCollapsed, isCollapsed_collapsed k, isCollapsed_collapsed v]
    rfl
  | struct ts =>
    rw [collapsed]
    exact isCollapsed_ofFields (areCollapsed_collapsedFields ts)
  | unknown => rfl

theorem areCollapsed_collapsedFields (ts : List BusType) :
    areCollapsed (collapsedFields ts) = true := by
  cases ts with
  | nil => rfl
  | cons t ts =>
    rw [collapsedFields, areCollapsed, isCollapsed_collapsed t, areCollapsed_collapsedFields ts]
    rfl

end

theorem toRust_ofFields (context : RustType.Context) (ts : List BusType) :
    (ofFields ts).toRust context = RustType.tuple (fieldsToRust context ts) := by
  match ts with
  | [] => rfl
  | [t] => rfl
  | t :: u :: ts => rfl

mutual

/-- **A type and its collapsed form are written in the same way.** -/
theorem toRust_collapsed (context : RustType.Context) (t : BusType) :
    t.collapsed.toRust context = t.toRust context := by
  cases t with
  | prim p => rfl
  | array t => rw [collapsed, toRust, toRust, toRust_collapsed context t]
  | dict k v =>
    rw [collapsed, toRust, toRust, toRust_collapsed context k, toRust_collapsed context v]
  | struct ts => rw [collapsed, toRust_ofFields, fieldsToRust_collapsed context ts, toRust]
  | unknown => rfl

theorem fieldsToRust_collapsed (context : RustType.Context) (ts : List BusType) :
    fieldsToRust context (collapsedFields ts) = fieldsToRust context ts := by
  cases ts with
  | nil => rfl
  | cons t ts =>
    rw [collapsedFields, fieldsToRust, fieldsToRust, toRust_collapsed context t,
      fieldsToRust_collapsed context ts]

end

/-! ## Openings -/

/-- How a type is made, as far as its first characters tell. -/
inductive Opening where
  | prim (kind : Primitive)
  | array
  | dict
  | struct
  deriving DecidableEq

namespace Opening

/-- The first characters of a type that is made in this way, without the lifetime. -/
def mark : Opening → String
  | prim .objectPath => "zbus::zvariant::ObjectPath<"
  | prim .signature => "zbus::zvariant::Signature<"
  | prim .variant => "zbus::zvariant::Value<"
  | prim p => p.toRust ""
  | array => "Vec<"
  | dict => "std::collections::HashMap<"
  | struct => "("

/-- All openings. -/
def all : List Opening :=
  [prim .byte, prim .boolean, prim .int16, prim .uint16, prim .int32, prim .uint32, prim .int64,
    prim .uint64, prim .double, prim .string, prim .objectPath, prim .signature, prim .variant,
    array, dict, struct]

theorem mem_all (o : Opening) : o ∈ all := by
  match o with
  | prim p => cases p <;> decide
  | array | dict | struct => decide

/-- No mark is the beginning of another one. -/
theorem eq_of_mark_isPrefix {o o' : Opening} (h : o.mark.toList <+: o'.mark.toList) : o = o' := by
  have hall : ∀ o ∈ all, ∀ o' ∈ all, o.mark.toList <+: o'.mark.toList → o = o' := by
    decide
  exact hall o (mem_all o) o' (mem_all o') h

/-- A mark starts with something else than the parenthesis that ends a tuple. -/
theorem exists_mark (o : Opening) : ∃ c rest, o.mark.toList = c :: rest ∧ c ≠ ')' := by
  have hall : ∀ o ∈ all, o.mark.toList.head?.any (· != ')') = true := by
    decide
  obtain ⟨c, hc, hne⟩ := (Option.any_eq_true _ _).mp (hall o (mem_all o))
  obtain ⟨rest, hrest⟩ := List.head?_eq_some_iff.mp hc
  exact ⟨c, rest, hrest, by simpa using hne⟩

end Opening

/-- How a collapsed type is made. -/
def opening : BusType → Opening
  | prim p => .prim p
  | array _ => .array
  | dict _ _ => .dict
  | struct _ => .struct
  | unknown => .prim .variant

/-! ## The text of a type -/

section Text

variable (lifetime : String)

/-- The characters of the Rust type of a type. -/
def rustText (t : BusType) : List Char := (t.toRust { lifetime }).toList

/-- What follows a field of a tuple that is followed by these. -/
def closing : List BusType → List Char
  | [] => [')']
  | t :: ts => ',' :: ' ' :: (rustText lifetime t ++ closing ts)

/-- What follows the parenthesis of a tuple of these fields. -/
def inside : List BusType → List Char
  | [] => [')']
  | t :: ts => rustText lifetime t ++ closing lifetime ts

theorem rustText_array (t : BusType) :
    rustText lifetime (array t) = "Vec<".toList ++ (rustText lifetime t ++ ['>']) := by
  simp [rustText, toRust]

theorem rustText_dict (k v : BusType) :
    rustText lifetime (dict k v) = "std::collections::HashMap<".toList ++
      (rustText lifetime k ++ (',' :: ' ' :: (rustText lifetime v ++ ['>']))) := by
  simp [rustText, toRust]

theorem toList_intercalate_fields (t : BusType) (ts : List BusType) :
    (", ".intercalate (fieldsToRust { lifetime } (t :: ts))).toList ++ [')'] =
      inside lifetime (t :: ts) := by
  rw [inside]
  induction ts generalizing t with
  | nil => simp [fieldsToRust, closing, rustText]
  | cons u us ih =>
    rw [fieldsToRust, fieldsToRust, String.intercalate_cons_cons, ← fieldsToRust, closing, ← ih u]
    simp [rustText]

/-- A struct of several fields, or of none, is in parentheses. -/
theorem rustText_struct {ts : List BusType} (h : ts.length ≠ 1) :
    rustText lifetime (struct ts) = '(' :: inside lifetime ts := by
  match ts with
  | [] => simp [rustText, toRust, fieldsToRust, RustType.tuple, RustType.unit, inside]
  | [t] => exact absurd rfl h
  | t :: u :: ts =>
    rw [← toList_intercalate_fields]
    simp [rustText, toRust, fieldsToRust, RustType.tuple]

theorem isCollapsed_struct {ts : List BusType} :
    (struct ts).isCollapsed = true ↔ ts.length ≠ 1 ∧ areCollapsed ts = true := by
  rw [isCollapsed, Bool.and_eq_true, bne_iff_ne]

/-- After the mark of a basic type there is a lifetime, if it names one. -/
theorem exists_toRust_eq (p : Primitive) :
    ∃ rest, p.toRust lifetime = (Opening.prim p).mark ++ rest := by
  match p with
  | .objectPath | .signature | .variant => exact ⟨lifetime ++ ">", String.append_assoc⟩
  | .byte | .boolean | .int16 | .uint16 | .int32 | .uint32 | .int64 | .uint64 | .double
  | .string => exact ⟨"", String.append_empty.symm⟩

/-- The text of a collapsed type begins with the mark of its opening. -/
theorem mark_isPrefix_rustText {t : BusType} (h : t.isCollapsed = true) :
    t.opening.mark.toList <+: rustText lifetime t := by
  cases t with
  | prim p =>
    obtain ⟨rest, hrest⟩ := exists_toRust_eq lifetime p
    rw [rustText, toRust, hrest, String.toList_append]
    exact List.prefix_append _ _
  | array t =>
    rw [rustText_array]
    exact List.prefix_append _ _
  | dict k v =>
    rw [rustText_dict]
    exact List.prefix_append _ _
  | struct ts =>
    rw [rustText_struct lifetime (isCollapsed_struct.mp h).1]
    exact List.prefix_append "(".toList _
  | unknown => cases h

/-! ## Reading a text back -/

/-- **Texts that agree from the beginning on are of types made in the same way.** -/
theorem opening_eq {t u : BusType} {r r' : List Char} (ht : t.isCollapsed = true)
    (hu : u.isCollapsed = true) (h : rustText lifetime t ++ r = rustText lifetime u ++ r') :
    t.opening = u.opening := by
  have hmark : t.opening.mark.toList <+: rustText lifetime u ++ r' := by
    rw [← h]
    exact (mark_isPrefix_rustText lifetime ht).trans (List.prefix_append _ _)
  have hmark' : u.opening.mark.toList <+: rustText lifetime u ++ r' :=
    (mark_isPrefix_rustText lifetime hu).trans (List.prefix_append _ _)
  rcases List.prefix_or_prefix_of_prefix hmark hmark' with hpre | hpre
  · exact Opening.eq_of_mark_isPrefix hpre
  · exact (Opening.eq_of_mark_isPrefix hpre).symm

/-- No type begins with the parenthesis that ends a tuple. -/
theorem rustText_ne_close {t : BusType} {r r' : List Char} (ht : t.isCollapsed = true) :
    rustText lifetime t ++ r ≠ ')' :: r' := by
  intro h
  obtain ⟨rest, hrest⟩ := mark_isPrefix_rustText lifetime ht
  obtain ⟨c, cs, hc, hne⟩ := t.opening.exists_mark
  rw [← hrest, hc, List.cons_append, List.cons_append, List.cons.injEq] at h
  exact hne h.1

mutual

/-- **No text of a collapsed type is the beginning of another one**: from a text that goes on, the
type and the rest can be told. -/
theorem rustText_cancel {t u : BusType} {r r' : List Char} (ht : t.isCollapsed = true)
    (hu : u.isCollapsed = true) (h : rustText lifetime t ++ r = rustText lifetime u ++ r') :
    t = u ∧ r = r' := by
  have hopening := opening_eq lifetime ht hu h
  cases t with
  | prim p =>
    cases u with
    | prim q =>
      cases hopening
      exact ⟨rfl, List.append_cancel_left h⟩
    | unknown => cases hu
    | _ => cases hopening
  | array t =>
    cases u with
    | array u =>
      rw [isCollapsed] at ht hu
      simp only [rustText_array, List.append_assoc, List.append_right_inj] at h
      obtain ⟨rfl, hrest⟩ := rustText_cancel ht hu h
      exact ⟨rfl, List.append_cancel_left hrest⟩
    | _ => cases hopening
  | dict k v =>
    cases u with
    | dict l w =>
      rw [isCollapsed, Bool.and_eq_true] at ht hu
      simp only [rustText_dict, List.append_assoc, List.cons_append, List.append_right_inj] at h
      obtain ⟨rfl, hvalue⟩ := rustText_cancel ht.1 hu.1 h
      simp only [List.cons.injEq, true_and] at hvalue
      obtain ⟨rfl, hrest⟩ := rustText_cancel ht.2 hu.2 hvalue
      exact ⟨rfl, (List.cons.inj hrest).2⟩
    | _ => cases hopening
  | struct ts =>
    cases u with
    | struct us =>
      rw [isCollapsed_struct] at ht hu
      rw [rustText_struct lifetime ht.1, rustText_struct lifetime hu.1] at h
      obtain ⟨rfl, hrest⟩ := inside_cancel ht.2 hu.2 (List.cons.inj h).2
      exact ⟨rfl, hrest⟩
    | _ => cases hopening
  | unknown => cases ht

theorem inside_cancel {ts us : List BusType} {r r' : List Char} (ht : areCollapsed ts = true)
    (hu : areCollapsed us = true) (h : inside lifetime ts ++ r = inside lifetime us ++ r') :
    ts = us ∧ r = r' := by
  match ts, us with
  | [], [] => exact ⟨rfl, List.append_cancel_left h⟩
  | [], u :: us =>
    rw [areCollapsed, Bool.and_eq_true] at hu
    rw [inside, inside, List.append_assoc] at h
    exact absurd h.symm (rustText_ne_close lifetime hu.1)
  | t :: ts, [] =>
    rw [areCollapsed, Bool.and_eq_true] at ht
    rw [inside, inside, List.append_assoc] at h
    exact absurd h (rustText_ne_close lifetime ht.1)
  | t :: ts, u :: us =>
    rw [areCollapsed, Bool.and_eq_true] at ht hu
    rw [inside, inside, List.append_assoc, List.append_assoc] at h
    obtain ⟨rfl, hrest⟩ := rustText_cancel ht.1 hu.1 h
    obtain ⟨rfl, hend⟩ := closing_cancel ht.2 hu.2 hrest
    exact ⟨rfl, hend⟩

theorem closing_cancel {ts us : List BusType} {r r' : List Char} (ht : areCollapsed ts = true)
    (hu : areCollapsed us = true) (h : closing lifetime ts ++ r = closing lifetime us ++ r') :
    ts = us ∧ r = r' := by
  match ts, us with
  | [], [] => exact ⟨rfl, List.append_cancel_left h⟩
  | [], u :: us => simp [closing] at h
  | t :: ts, [] => simp [closing] at h
  | t :: ts, u :: us =>
    rw [areCollapsed, Bool.and_eq_true] at ht hu
    simp only [closing, List.cons_append, List.append_assoc, List.cons.injEq, true_and] at h
    obtain ⟨rfl, hrest⟩ := rustText_cancel ht.1 hu.1 h
    obtain ⟨rfl, hend⟩ := closing_cancel ht.2 hu.2 hrest
    exact ⟨rfl, hend⟩

end

theorem toRust_eq_toRust_iff {t u : BusType} :
    t.toRust { lifetime } = u.toRust { lifetime } ↔ t.collapsed = u.collapsed := by
  rw [← toRust_collapsed, ← toRust_collapsed _ u]
  constructor
  · intro h
    have htext : rustText lifetime t.collapsed ++ [] = rustText lifetime u.collapsed ++ [] := by
      rw [List.append_nil, List.append_nil, rustText, rustText, h]
    exact (rustText_cancel lifetime (isCollapsed_collapsed t) (isCollapsed_collapsed u) htext).1
  · intro h
    rw [h]

end Text

end BusType

/-! ## Rust types of signatures -/

namespace RustType

/-- The Rust type of a signature is that of the type it is read as. -/
theorem ofSignature_map {context : Context} {s : String} {r : Signature.Reading}
    (h : Signature.parse s = .ok r) :
    (ofSignature context s).map (·.1) = .ok (r.type.toRust context) := by
  rw [ofSignature, h]
  rfl

/-- **What a Rust type tells**: with any lifetime, two types are written in the same way exactly if
their collapsed forms are equal, and so are two signatures that are read. -/
theorem toRust_eq_iff (lifetime : String) :
    (∀ t u : BusType,
      t.toRust { lifetime } = u.toRust { lifetime } ↔ t.collapsed = u.collapsed) ∧
    ∀ (s s' : String) (r r' : Signature.Reading),
      Signature.parse s = .ok r → Signature.parse s' = .ok r' →
        ((ofSignature { lifetime } s).map (·.1) = (ofSignature { lifetime } s').map (·.1) ↔
          r.type.collapsed = r'.type.collapsed) := by
  refine ⟨fun t u => BusType.toRust_eq_toRust_iff lifetime, fun s s' r r' hs hs' => ?_⟩
  rw [ofSignature_map hs, ofSignature_map hs', Except.ok.injEq,
    BusType.toRust_eq_toRust_iff lifetime]

/-- The signatures `a((av))` and `a(a?)` are written in the same way. -/
theorem nested_toRust_eq :
    ∃ r r', Signature.parse "a((av))" = .ok r ∧ Signature.parse "a(a?)" = .ok r' ∧
      r.type ≠ r'.type ∧
      (ofSignature { lifetime := "'a" } "a((av))").map (·.1) =
        (ofSignature { lifetime := "'a" } "a(a?)").map (·.1) := by
  have hr : Signature.parse "a((av))" =
      .ok ⟨.array (.struct [.struct [.array (.prim .variant)]]), []⟩ := rfl
  have hr' : Signature.parse "a(a?)" =
      .ok ⟨.array (.struct [.array .unknown]), [⟨"a(a?)", .unknownCode '?' 4⟩]⟩ := rfl
  exact ⟨_, _, hr, hr', by decide, ((toRust_eq_iff "'a").2 _ _ _ _ hr hr').mpr (by decide)⟩

end RustType

end BusTraits
