import BusTraits.Signature.Basic

/-!
# The grammar of signatures

What a signature is, said without a reader: `Derives after s t` holds when the text `s`, standing
before the text `after`, spells the type `t`. The text after it matters for one thing only, an
array code by itself, which is complete when no element can follow.

The other way round a type has a `spelling`, its canonical signature.

* `Derives.head`: no type starts with a closing bracket or a brace;
* **`Derives.iff_spelling`**: a type without an unknown part is spelled in one way.
-/

namespace BusTraits

/-! ## Spelling -/

namespace BusType

mutual

/-- Whether every part of a type is known. -/
def known : BusType → Bool
  | prim _ => true
  | array t => known t
  | dict k v => known k && known v
  | struct ts => knownFields ts
  | unknown => false

/-- Whether every part of every field is known. -/
def knownFields : List BusType → Bool
  | [] => true
  | t :: ts => known t && knownFields ts

end

mutual

/-- The signature of a type. An unknown part has none and is left out. -/
def spelling : BusType → List Char
  | prim p => [p.code]
  | array t => 'a' :: spelling t
  | dict k v => 'a' :: '\x7b' :: (spelling k ++ (spelling v ++ ['\x7d']))
  | struct ts => '(' :: (spellings ts ++ [')'])
  | unknown => []

/-- The signatures of fields, one after another. -/
def spellings : List BusType → List Char
  | [] => []
  | t :: ts => spelling t ++ spellings ts

end

end BusType

namespace Signature

/-! ## The grammar -/

/-- The characters that have a meaning in a signature. -/
def meaningful : List Char :=
  ['y', 'b', 'n', 'q', 'i', 'u', 'x', 't', 'd', 's', 'o', 'g', 'v', 'a', '(', ')', '\x7b', '\x7d']

mutual

/-- The text `s`, standing before `after`, spells the type `t`. -/
inductive Derives : (after s : List Char) → (t : BusType) → Prop where
  | prim (after : List Char) (p : Primitive) : Derives after [p.code] (.prim p)
  | unknown (after : List Char) {c : Char} (h : c ∉ meaningful) : Derives after [c] .unknown
  | array {after s : List Char} {t : BusType} (h : Derives after s t) :
    Derives after ('a' :: s) (.array t)
  | dict {after k v : List Char} {key value : BusType}
    (hk : Derives (v ++ '\x7d' :: after) k key) (hv : Derives ('\x7d' :: after) v value) :
    Derives after ('a' :: '\x7b' :: (k ++ (v ++ ['\x7d']))) (.dict key value)
  | struct {after s : List Char} {ts : List BusType} (h : DerivesAll (')' :: after) s ts) :
    Derives after ('(' :: (s ++ [')'])) (.struct ts)
  | dangling {after : List Char} (h : after.head? ∈ [none, some ')', some '\x7d']) :
    Derives after ['a'] (.array .unknown)

/-- The text `s`, standing before `after`, spells the types `ts` one after another. -/
inductive DerivesAll : (after s : List Char) → (ts : List BusType) → Prop where
  | nil (after : List Char) : DerivesAll after [] []
  | cons {after s ss : List Char} {t : BusType} {ts : List BusType}
    (h : Derives (ss ++ after) s t) (hs : DerivesAll after ss ts) :
    DerivesAll after (s ++ ss) (t :: ts)

end

theorem ofCode?_eq_some {c : Char} {p : Primitive} (h : Primitive.ofCode? c = some p) :
    c = p.code := by
  unfold Primitive.ofCode? at h
  split at h <;> cases h <;> rfl

/-- A character is meaningful exactly if it is a basic code, an array code or a bracket. -/
theorem mem_meaningful {c : Char} :
    c ∈ meaningful ↔ (Primitive.ofCode? c).isSome = true ∨ c ∈ ['a', '(', ')', '\x7b', '\x7d'] := by
  constructor
  · intro h
    have hall : meaningful.all (fun c => (Primitive.ofCode? c).isSome ||
        decide (c ∈ ['a', '(', ')', '\x7b', '\x7d'])) = true := by
      decide
    have hc := List.all_eq_true.mp hall c h
    rwa [Bool.or_eq_true, decide_eq_true_eq] at hc
  · rintro (h | h)
    · obtain ⟨p, hp⟩ := Option.isSome_iff_exists.mp h
      rw [ofCode?_eq_some hp]
      cases p <;> decide
    · simp only [List.mem_cons, List.not_mem_nil, or_false] at h
      rcases h with rfl | rfl | rfl | rfl | rfl <;> decide

/-- No type starts with a closing bracket or a brace. -/
theorem Derives.head {after s : List Char} {t : BusType} :
    Derives after s t → ∃ c r, s = c :: r ∧ c ∉ [')', '\x7b', '\x7d']
  | .prim _ p => ⟨p.code, [], rfl, by cases p <;> decide⟩
  | .unknown _ (c := c) h => ⟨c, [], rfl, fun hc =>
      h (mem_meaningful.mpr (Or.inr (List.mem_cons_of_mem _ (List.mem_cons_of_mem _ hc))))⟩
  | .array (s := s) _ => ⟨'a', s, rfl, by decide⟩
  | .dict _ _ => ⟨'a', _, rfl, by decide⟩
  | .struct _ => ⟨'(', _, rfl, by decide⟩
  | .dangling _ => ⟨'a', [], rfl, by decide⟩

theorem not_derives_nil {after : List Char} {t : BusType} : ¬Derives after [] t := by
  intro h
  obtain ⟨c, r, hs, _⟩ := h.head
  cases hs

/-- Where a type stands, an array code in front of it has an element. -/
theorem Derives.head?_append {after s : List Char} {t : BusType} (h : Derives after s t) :
    (s ++ after).head? ∉ [none, some ')', some '\x7d'] := by
  obtain ⟨c, r, rfl, hc⟩ := h.head
  simp only [List.mem_cons, List.not_mem_nil, or_false, not_or] at hc
  simp [hc.1, hc.2.2]

/-! ## Types without an unknown part -/

mutual

theorem Derives.eq_spelling {after s : List Char} {t : BusType} :
    Derives after s t → t.known = true → s = t.spelling
  | .prim _ _, _ => rfl
  | .unknown _ _, hk => by simp [BusType.known] at hk
  | .array h, hk => by rw [BusType.spelling, h.eq_spelling hk]
  | .dict hk hv, h => by
    rw [BusType.known, Bool.and_eq_true] at h
    rw [BusType.spelling, hk.eq_spelling h.1, hv.eq_spelling h.2]
  | .struct hts, h => by rw [BusType.spelling, hts.eq_spellings h]
  | .dangling _, hk => by simp [BusType.known] at hk

theorem DerivesAll.eq_spellings {after s : List Char} {ts : List BusType} :
    DerivesAll after s ts → BusType.knownFields ts = true → s = BusType.spellings ts
  | .nil _, _ => rfl
  | .cons ht hts, h => by
    rw [BusType.knownFields, Bool.and_eq_true] at h
    rw [BusType.spellings, ht.eq_spelling h.1, hts.eq_spellings h.2]

end

mutual

theorem derives_spelling (after : List Char) (t : BusType) (h : t.known = true) :
    Derives after t.spelling t := by
  cases t with
  | prim p => exact .prim after p
  | array t => exact .array (derives_spelling after t h)
  | dict k v =>
    rw [BusType.known, Bool.and_eq_true] at h
    exact .dict (derives_spelling _ k h.1) (derives_spelling _ v h.2)
  | struct ts => exact .struct (derivesAll_spellings _ ts h)
  | unknown => simp [BusType.known] at h

theorem derivesAll_spellings (after : List Char) (ts : List BusType)
    (h : BusType.knownFields ts = true) : DerivesAll after (BusType.spellings ts) ts := by
  cases ts with
  | nil => exact .nil after
  | cons t ts =>
    rw [BusType.knownFields, Bool.and_eq_true] at h
    exact .cons (derives_spelling _ t h.1) (derivesAll_spellings after ts h.2)

end

/-- **A type without an unknown part is spelled in one way**, wherever it stands. -/
theorem Derives.iff_spelling {after s : List Char} {t : BusType} (ht : t.known = true) :
    Derives after s t ↔ s = t.spelling := by
  constructor
  · intro h
    exact h.eq_spelling ht
  · rintro rfl
    exact derives_spelling after t ht

end Signature

end BusTraits
