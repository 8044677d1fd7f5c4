import Mathlib.Data.List.Basic
import Stencil.Markup.Attributes

/-
  What the attributes of a tag say. Decoding them comes to the first value that is at fault, and
  where none is, to all keys with their values in order.

  Proved: `Reordered.saySame`, sound attributes with distinct keys may stand in any order; and
  `saySame_insert`, a further sound attribute changes nothing for other keys.
-/

namespace Stencil.Markup

variable {attributes attributes' front back : List Attribute} {keys : List String}

/-! ## Decoding -/

namespace Attribute

/-- Why the value cannot be decoded. -/
def fault? : Attribute → Option BadReference
  | malformed => none
  | pair _ raw =>
    match decodeValue raw with
    | .error why => some why
    | .ok _ => none

/-- A sound attribute's key with its value. -/
def decoded? : Attribute → Option (String × String)
  | malformed => none
  | pair key raw =>
    match decodeValue raw with
    | .error _ => none
    | .ok value => some (String.ofList key, String.ofList value)

theorem fault?_of_isSome {item : Attribute} (sound : item.decoded?.isSome) :
    item.fault? = none := by
  cases item with
  | malformed => rfl
  | pair key raw =>
    cases decoded : decodeValue raw with
    | error why => simp [decoded?, decoded] at sound
    | ok value => simp [fault?, decoded]

end Attribute

theorem decodeAttributes_eq (attributes : List Attribute) : decodeAttributes attributes =
    match attributes.filterMap Attribute.fault? with
    | why :: _ => .error why
    | [] => .ok (attributes.filterMap Attribute.decoded?) := by
  induction attributes with
  | nil => rfl
  | cons item rest ih =>
    cases item with
    | malformed => exact ih
    | pair key raw =>
      rw [decodeAttributes]
      cases decoded : decodeValue raw with
      | error why =>
        rw [List.filterMap_cons_some (b := why) (by simp [Attribute.fault?, decoded])]
        rfl
      | ok value =>
        rw [List.filterMap_cons_none (by simp [Attribute.fault?, decoded]),
          List.filterMap_cons_some (b := (String.ofList key, String.ofList value))
            (by simp [Attribute.decoded?, decoded]), ih]
        cases rest.filterMap Attribute.fault? with
        | nil => rfl
        | cons why _ => rfl

/-- The attributes give the same values for some keys, or are at fault alike. -/
def SaySame (keys : List String) (attributes attributes' : List Attribute) : Prop :=
  ∀ key ∈ keys, (decodeAttributes attributes).map (·.lookup key) =
    (decodeAttributes attributes').map (·.lookup key)

theorem saySame_refl (keys : List String) (attributes : List Attribute) :
    SaySame keys attributes attributes := fun _ _ => rfl

theorem saySame_of_entries
    (faults : attributes.filterMap Attribute.fault? = attributes'.filterMap Attribute.fault?)
    (values : ∀ key ∈ keys, (attributes.filterMap Attribute.decoded?).lookup key =
      (attributes'.filterMap Attribute.decoded?).lookup key) :
    SaySame keys attributes attributes' := by
  intro key mem
  rw [decodeAttributes_eq, decodeAttributes_eq, ← faults]
  cases attributes.filterMap Attribute.fault? with
  | nil => exact congrArg Except.ok (values key mem)
  | cons why _ => rfl

/-! ## Order -/

/-- Among distinct keys each has one value. -/
theorem lookup_eq_some_iff_mem {entries : List (String × String)} {key value : String}
    (distinct : (entries.map Prod.fst).Nodup) :
    entries.lookup key = some value ↔ (key, value) ∈ entries := by
  induction entries with
  | nil => simp
  | cons entry entries ih =>
    obtain ⟨key', value'⟩ := entry
    rw [List.map_cons, List.nodup_cons] at distinct
    obtain ⟨fresh, distinct⟩ := distinct
    by_cases same : key = key'
    · subst same
      have absent : (key, value) ∉ entries := fun mem =>
        fresh (List.mem_map.mpr ⟨(key, value), mem, rfl⟩)
      simp [absent, eq_comm]
    · have other : (key == key') = false := beq_eq_false_iff_ne.mpr same
      simp [List.lookup_cons, other, ih distinct, same]

theorem lookup_eq_of_perm {entries entries' : List (String × String)}
    (perm : entries.Perm entries') (distinct : (entries.map Prod.fst).Nodup) (key : String) :
    entries.lookup key = entries'.lookup key := by
  have distinct' : (entries'.map Prod.fst).Nodup := (perm.map Prod.fst).nodup distinct
  refine Option.ext fun value => ?_
  rw [lookup_eq_some_iff_mem distinct, lookup_eq_some_iff_mem distinct', perm.mem_iff]

/-- The sound attributes, all with distinct keys, stand in another order. -/
structure Reordered (attributes attributes' : List Attribute) : Prop where
  perm : attributes.Perm attributes'
  others : attributes.filter (·.decoded?.isNone) = attributes'.filter (·.decoded?.isNone)
  distinct : ((attributes.filterMap Attribute.decoded?).map Prod.fst).Nodup

/-- Only attributes that are not sound can be at fault. -/
theorem filterMap_fault?_eq (attributes : List Attribute) :
    attributes.filterMap Attribute.fault? =
      (attributes.filter (·.decoded?.isNone)).filterMap Attribute.fault? := by
  rw [List.filterMap_filter]
  refine List.filterMap_congr fun item _ => ?_
  cases sound : item.decoded? with
  | none => rfl
  | some entry => exact Attribute.fault?_of_isSome (by simp [sound])

theorem Reordered.saySame (h : Reordered attributes attributes') (keys : List String) :
    SaySame keys attributes attributes' := by
  refine saySame_of_entries ?_ fun key _ => ?_
  · rw [filterMap_fault?_eq attributes, h.others, ← filterMap_fault?_eq attributes']
  · exact lookup_eq_of_perm (h.perm.filterMap _) h.distinct key

/-! ## Further attributes -/

theorem saySame_insert {key raw value : List Char} (decoded : decodeValue raw = .ok value)
    (unread : String.ofList key ∉ keys) :
    SaySame keys (front ++ back) (front ++ .pair key raw :: back) := by
  refine saySame_of_entries ?_ fun other mem => ?_
  · rw [List.filterMap_append, List.filterMap_append,
      List.filterMap_cons_none (by simp [Attribute.fault?, decoded])]
  · have differs : (other == String.ofList key) = false :=
      beq_eq_false_iff_ne.mpr fun same => unread (same ▸ mem)
    rw [List.filterMap_append, List.filterMap_append,
      List.filterMap_cons_some (b := (String.ofList key, String.ofList value))
        (by simp [Attribute.decoded?, decoded]),
      List.lookup_append, List.lookup_append, List.lookup_cons, differs]

end Stencil.Markup
