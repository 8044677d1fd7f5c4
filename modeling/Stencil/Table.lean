/-
  Tables from texts to values, kept in ascending order of the keys, by code points.
-/

namespace Stencil

/-- Puts a row in its place; a row with the same key gives way. -/
def insertRow {β : Type} (key : String) (value : β) : List (String × β) → List (String × β)
  | [] => [(key, value)]
  | row :: rest =>
    if key < row.1 then (key, value) :: row :: rest
    else if key = row.1 then (key, value) :: rest
    else row :: insertRow key value rest

theorem mem_insertRow {β : Type} {key : String} {value : β} {row : String × β}
    {rows : List (String × β)} (h : row ∈ insertRow key value rows) :
    row = (key, value) ∨ row ∈ rows := by
  induction rows with
  | nil => simpa [insertRow] using h
  | cons first rest ih =>
    rw [insertRow] at h
    split at h
    · simpa using h
    · split at h
      · rcases List.mem_cons.mp h with h | h
        · exact .inl h
        · exact .inr (List.mem_cons_of_mem _ h)
      · rcases List.mem_cons.mp h with h | h
        · exact .inr (h ▸ List.mem_cons_self)
        · exact (ih h).imp_right (List.mem_cons_of_mem _)

theorem ascending_insertRow {β : Type} (key : String) (value : β) {rows : List (String × β)}
    (h : rows.Pairwise (·.1 < ·.1)) : (insertRow key value rows).Pairwise (·.1 < ·.1) := by
  induction rows with
  | nil => simp [insertRow]
  | cons first rest ih =>
    rw [List.pairwise_cons] at h
    rw [insertRow]
    split
    · rename_i lt
      refine List.pairwise_cons.mpr ⟨fun row mem => ?_, List.pairwise_cons.mpr h⟩
      rcases List.mem_cons.mp mem with rfl | mem
      · exact lt
      · exact String.lt_trans lt (h.1 row mem)
    · split
      · rename_i _ eq
        exact List.pairwise_cons.mpr ⟨fun row mem => eq ▸ h.1 row mem, h.2⟩
      · rename_i not_lt ne
        refine List.pairwise_cons.mpr ⟨fun row mem => ?_, ih h.2⟩
        rcases mem_insertRow mem with rfl | mem
        · exact Std.lt_of_le_of_ne (String.not_lt.mp not_lt) (Ne.symm ne)
        · exact h.1 row mem

structure Table (β : Type) where
  rows : List (String × β)
  ascending : rows.Pairwise (·.1 < ·.1)

namespace Table

variable {β : Type}

def empty : Table β := ⟨[], .nil⟩

def put (t : Table β) (key : String) (value : β) : Table β :=
  ⟨insertRow key value t.rows, ascending_insertRow key value t.ascending⟩

def find? (t : Table β) (key : String) : Option β := t.rows.lookup key

def has (t : Table β) (key : String) : Bool := (t.find? key).isSome

def size (t : Table β) : Nat := t.rows.length

def isEmpty (t : Table β) : Bool := t.rows.isEmpty

/-- Later pairs win. -/
def ofList (pairs : List (String × β)) : Table β :=
  pairs.foldl (fun t pair => t.put pair.1 pair.2) empty

end Table

theorem lookup_row {β : Type} (other : String) (row : String × β) (rows : List (String × β)) :
    (row :: rows).lookup other = if other = row.1 then some row.2 else rows.lookup other := by
  rw [List.lookup_cons]
  by_cases h : other = row.1
  · simp [h]
  · simp [beq_false_of_ne h, h]

theorem lookup_insertRow {β : Type} (key other : String) (value : β)
    (rows : List (String × β)) :
    (insertRow key value rows).lookup other =
      if other = key then some value else rows.lookup other := by
  induction rows with
  | nil => rw [insertRow, lookup_row]
  | cons first rest ih =>
    rw [insertRow]
    split
    · rw [lookup_row]
    · split
      · rename_i _ same
        simp only [lookup_row, ← same]
        split <;> rfl
      · rename_i _ differ
        simp only [lookup_row, ih]
        by_cases h : other = key
        · subst h; simp [differ]
        · simp [h]

theorem length_insertRow {β : Type} {key : String} {rows : List (String × β)}
    (h : rows.lookup key = none) (value : β) :
    (insertRow key value rows).length = rows.length + 1 := by
  induction rows with
  | nil => rfl
  | cons first rest ih =>
    rw [lookup_row] at h
    rw [insertRow]
    split
    · rfl
    · split
      · rename_i _ same
        rw [if_pos same] at h
        cases h
      · rename_i _ differ
        rw [if_neg differ] at h
        rw [List.length_cons, ih h, List.length_cons]

/-- A key after all others comes last. -/
theorem insertRow_last {β : Type} {key : String} {rows : List (String × β)}
    (h : ∀ row ∈ rows, row.1 < key) (value : β) :
    insertRow key value rows = rows ++ [(key, value)] := by
  induction rows with
  | nil => rfl
  | cons first rest ih =>
    have before := h first List.mem_cons_self
    rw [insertRow, if_neg (String.lt_asymm before), if_neg (String.ne_of_lt before).symm,
      ih fun row mem => h row (List.mem_cons_of_mem first mem)]
    rfl

/-- No two rows have one key, so the rows with a key are the one that is found, if any. -/
theorem filter_rows {β : Type} {rows : List (String × β)} (h : rows.Pairwise (·.1 < ·.1))
    (key : String) :
    rows.filter (·.1 = key) = ((rows.lookup key).map fun value => (key, value)).toList := by
  induction rows with
  | nil => rfl
  | cons first rest ih =>
    rw [List.pairwise_cons] at h
    rw [lookup_row, List.filter_cons, ih h.2]
    by_cases same : key = first.1
    · have none_later : rest.lookup key = none := by
        rw [List.lookup_eq_none_iff]
        intro row mem
        exact bne_iff_ne.mpr (same ▸ String.ne_of_lt (h.1 row mem))
      simp [same ▸ none_later, same]
    · simp [same, Ne.symm same]

theorem Table.find?_put {β : Type} (t : Table β) (key other : String) (value : β) :
    (t.put key value).find? other = if other = key then some value else t.find? other :=
  lookup_insertRow key other value t.rows

theorem Table.find?_empty {β : Type} (key : String) : (empty : Table β).find? key = none := rfl

theorem Table.size_put {β : Type} {t : Table β} {key : String} (h : t.find? key = none)
    (value : β) : (t.put key value).size = t.size + 1 :=
  length_insertRow h value

theorem Table.rows_foldl_put {β : Type} (t : Table β) {more : List (String × β)}
    (h : (t.rows ++ more).Pairwise (·.1 < ·.1)) :
    (more.foldl (fun t pair => t.put pair.1 pair.2) t).rows = t.rows ++ more := by
  induction more generalizing t with
  | nil => exact (List.append_nil _).symm
  | cons row more ih =>
    obtain ⟨_, _, apart⟩ := List.pairwise_append.mp h
    have last : (t.put row.1 row.2).rows = t.rows ++ [row] :=
      insertRow_last (fun other mem => apart other mem row List.mem_cons_self) row.2
    have shape : t.rows ++ row :: more = (t.put row.1 row.2).rows ++ more := by
      rw [last, List.append_assoc, List.singleton_append]
    rw [List.foldl_cons, ih _ (shape ▸ h), ← shape]

/-- The rows of a table give the table. -/
theorem Table.ofList_rows {β : Type} (t : Table β) : ofList t.rows = t := by
  have same : (ofList t.rows).rows = t.rows := rows_foldl_put empty t.ascending
  generalize ofList t.rows = built at same
  cases built
  cases t
  cases same
  rfl

theorem Table.filter_rows_eq {β : Type} (t : Table β) (key : String) :
    t.rows.filter (·.1 = key) = ((t.find? key).map fun value => (key, value)).toList :=
  filter_rows t.ascending key

theorem Table.mem_rows {β : Type} (t : Table β) (key : String) (value : β) :
    (key, value) ∈ t.rows ↔ t.find? key = some value := by
  have h : (key, value) ∈ t.rows ↔ (key, value) ∈ t.rows.filter (·.1 = key) := by simp
  rw [h, filter_rows_eq]
  cases t.find? key <;> simp [eq_comm]

end Stencil
