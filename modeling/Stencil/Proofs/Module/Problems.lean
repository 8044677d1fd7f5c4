import Mathlib.Data.List.Induction
import Mathlib.Data.List.Nodup
import Stencil.Module.Problems

/-
  The problems of a module. Each stands at a place, and places are in the order of declaration: the
  name of the module, then the declared types, each followed by its members, then the imports.

  Proved: `problems_listed`. All problems are found, in order, and nothing else; so there is none
  exactly if names are distinct in their scopes and variadic methods end in a slice.
-/

namespace Stencil

/-! ## Lists by places -/

/-- All faults in the order of their places, at most one at each. Of two places the one comes first
that is earlier from the outside in. -/
def Lists {γ : Type} (fault : List Nat → γ → Prop) (faults : List γ) : Prop :=
  ∃ found : List (List Nat × γ), found.map Prod.snd = faults ∧
    found.Pairwise (fun x y => x.1 < y.1) ∧ ∀ place a, (place, a) ∈ found ↔ fault place a

section

variable {β γ : Type} {fault fault' : List Nat → γ → Prop} {faults faults' : List γ}

theorem Lists.congr (h : Lists fault faults) (same : ∀ place a, fault place a ↔ fault' place a) :
    Lists fault' faults := by
  obtain ⟨found, listed, ordered, all⟩ := h
  exact ⟨found, listed, ordered, fun place a => (all place a).trans (same place a)⟩

theorem Lists.eq_nil_iff (h : Lists fault faults) : faults = [] ↔ ∀ place a, ¬ fault place a := by
  obtain ⟨found, rfl, _, all⟩ := h
  rw [List.map_eq_nil_iff, List.eq_nil_iff_forall_not_mem, Prod.forall]
  simp only [all]

theorem lists_nil (h : ∀ place a, ¬ fault place a) : Lists fault [] := ⟨[], rfl, .nil, by simp [h]⟩

theorem lists_singleton (here : List Nat) (a : γ)
    (h : ∀ place b, fault place b ↔ place = here ∧ b = a) : Lists fault [a] :=
  ⟨[(here, a)], rfl, List.pairwise_singleton _ _, by simp [h]⟩

theorem lists_ite (c : Prop) [Decidable c] (here : List Nat) (a : γ) :
    Lists (fun place b => c ∧ place = here ∧ b = a) (if c then [a] else []) := by
  split
  · exact lists_singleton here a (by simp [*])
  · exact lists_nil (by simp [*])

theorem Lists.append (h : Lists fault faults) (h' : Lists fault' faults')
    (before : ∀ place a place' a', fault place a → fault' place' a' → place < place') :
    Lists (fun place a => fault place a ∨ fault' place a) (faults ++ faults') := by
  obtain ⟨found, rfl, ordered, all⟩ := h
  obtain ⟨found', rfl, ordered', all'⟩ := h'
  refine ⟨found ++ found', List.map_append, ?_, fun place a => ?_⟩
  · refine List.pairwise_append.mpr ⟨ordered, ordered', ?_⟩
    rintro ⟨place, a⟩ mem ⟨place', a'⟩ mem'
    exact before place a place' a' ((all place a).mp mem) ((all' place' a').mp mem')
  · rw [List.mem_append, all, all']

/-- The same faults one level further in. -/
theorem Lists.within (h : Lists fault faults) (i : Nat) :
    Lists (fun place a => ∃ rest, place = i :: rest ∧ fault rest a) faults := by
  obtain ⟨found, rfl, ordered, all⟩ := h
  refine ⟨found.map fun x => (i :: x.1, x.2), by simp, ?_, fun place a => ?_⟩
  · rw [List.pairwise_map]
    exact ordered.imp fun before => List.cons_lt_cons_iff.mpr (.inr ⟨rfl, before⟩)
  · constructor
    · intro mem
      obtain ⟨⟨rest, a⟩, held, same⟩ := List.mem_map.mp mem
      cases same
      exact ⟨rest, rfl, (all rest a).mp held⟩
    · rintro ⟨rest, rfl, here⟩
      exact List.mem_map.mpr ⟨(rest, a), (all rest a).mpr here, rfl⟩

theorem getElem?_concat_iff {items : List β} {b c : β} {i : Nat} :
    (items ++ [b])[i]? = some c ↔ items[i]? = some c ∨ i = items.length ∧ b = c := by
  rw [List.getElem?_append]
  split
  · rename_i inside
    simp [Nat.ne_of_lt inside]
  · rename_i outside
    rw [List.getElem?_eq_none (Nat.le_of_not_lt outside), List.getElem?_singleton]
    split
    · simp
      omega
    · simp
      omega

/-- The faults of all items, item by item. -/
theorem lists_flatMap {items : List β} {f : β → List γ} {inside : β → List Nat → γ → Prop}
    (each : ∀ b ∈ items, Lists (inside b) (f b)) :
    Lists (fun place a => ∃ i rest b, place = i :: rest ∧ items[i]? = some b ∧ inside b rest a)
      (items.flatMap f) := by
  induction items using List.reverseRecOn with
  | nil => exact ⟨[], rfl, .nil, by simp⟩
  | append_singleton items b ih =>
    -- the last item's position is greater than those of all items before
    have front := ih fun c mem => each c (by simp [mem])
    have last := (each b (by simp)).within items.length
    rw [List.flatMap_append, List.flatMap_singleton]
    refine (front.append last ?_).congr fun place a => ?_
    · rintro _ a _ a' ⟨i, rest, c, rfl, held, _⟩ ⟨rest', rfl, _⟩
      obtain ⟨bound, _⟩ := List.getElem?_eq_some_iff.mp held
      exact List.cons_lt_cons_iff.mpr (.inl bound)
    · constructor
      · rintro (⟨i, rest, c, rfl, held, here⟩ | ⟨rest, rfl, here⟩)
        · exact ⟨i, rest, c, rfl, getElem?_concat_iff.mpr (.inl held), here⟩
        · exact ⟨_, rest, b, rfl, getElem?_concat_iff.mpr (.inr ⟨rfl, rfl⟩), here⟩
      · rintro ⟨i, rest, c, rfl, held, here⟩
        rcases getElem?_concat_iff.mp held with held | ⟨rfl, rfl⟩
        · exact .inl ⟨i, rest, c, rfl, held, here⟩
        · exact .inr ⟨rest, rfl, here⟩

end

/-! ## Repeated names -/

/-- The key of an item stands before it in the list. -/
def Repeats {α : Type} (key : α → String) (items : List α) (i : Nat) : Prop :=
  ∃ a, items[i]? = some a ∧ ∃ j < i, ∃ b, items[j]? = some b ∧ key b = key a

section

variable {α : Type} {key : α → String} {items : List α} {i : Nat} {a : α}

theorem getElem?_withRepeats (key : α → String) (seen : List String) (items : List α) (i : Nat) :
    (withRepeats key seen items)[i]? = items[i]?.map fun a =>
      (a, decide (key a ∈ seen ∨ ∃ j < i, ∃ b, items[j]? = some b ∧ key b = key a)) := by
  induction items generalizing seen i with
  | nil => rfl
  | cons first rest ih =>
    cases i with
    | zero => simp [withRepeats]
    | succ i =>
      rw [withRepeats, List.getElem?_cons_succ, List.getElem?_cons_succ, ih]
      congr 1
      funext a
      have before : (key a ∈ key first :: seen ∨ ∃ j < i, ∃ b, rest[j]? = some b ∧ key b = key a) ↔
          key a ∈ seen ∨ ∃ j < i + 1, ∃ b, (first :: rest)[j]? = some b ∧ key b = key a := by
        rw [Nat.exists_lt_succ_left]
        simp [List.mem_cons, eq_comm, or_assoc, or_left_comm]
      simp only [before]

theorem withRepeats_eq_some {again : Bool} (h : (withRepeats key [] items)[i]? = some (a, again)) :
    items[i]? = some a ∧ (again = true ↔ Repeats key items i) := by
  rw [getElem?_withRepeats] at h
  obtain ⟨a, held, same⟩ := Option.map_eq_some_iff.mp h
  cases same
  simp [Repeats, held]

theorem nodup_iff_not_repeats : (items.map key).Nodup ↔ ∀ i, ¬ Repeats key items i := by
  rw [List.Nodup, List.pairwise_map, List.pairwise_iff_getElem]
  constructor
  · rintro distinct i ⟨a, held, j, before, b, held', same⟩
    obtain ⟨bound, rfl⟩ := List.getElem?_eq_some_iff.mp held
    obtain ⟨bound', rfl⟩ := List.getElem?_eq_some_iff.mp held'
    exact distinct j i bound' bound before same
  · intro distinct j i bound' bound before same
    exact distinct i ⟨items[i], List.getElem?_eq_getElem bound, j, before, items[j],
      List.getElem?_eq_getElem bound', same⟩

/-- The faults of items whose keys are to be distinct, with what else is told of each. -/
theorem lists_withRepeats {γ : Type} (key : α → String) (items : List α) (problem : α → γ)
    {more : α → List γ} {inside : α → List Nat → γ → Prop} (each : ∀ a, Lists (inside a) (more a))
    (deeper : ∀ a b, ¬ inside a [] b) :
    Lists (fun place b => ∃ i a rest, place = i :: rest ∧ items[i]? = some a ∧
        (rest = [] ∧ Repeats key items i ∧ b = problem a ∨ inside a rest b))
      ((withRepeats key [] items).flatMap fun (a, again) =>
        (if again then [problem a] else []) ++ more a) := by
  have item (x : α × Bool) : Lists
      (fun place b => (x.2 = true ∧ place = [] ∧ b = problem x.1) ∨ inside x.1 place b)
      ((if x.2 = true then [problem x.1] else []) ++ more x.1) := by
    refine (lists_ite _ _ _).append (each x.1) ?_
    rintro place b place' b' ⟨_, rfl, _⟩ here
    cases place' with
    | nil => exact absurd here (deeper x.1 b')
    | cons i rest => exact List.nil_lt_cons i rest
  -- the mark that the list puts on an item tells whether its key repeats
  refine (lists_flatMap fun x _ => item x).congr fun place b => ?_
  constructor
  · rintro ⟨i, rest, ⟨a, again⟩, rfl, held, here⟩
    obtain ⟨held, repeated⟩ := withRepeats_eq_some held
    refine ⟨i, a, rest, rfl, held, here.imp_left ?_⟩
    rintro ⟨isAgain, empty, shape⟩
    exact ⟨empty, repeated.mp isAgain, shape⟩
  · rintro ⟨i, a, rest, rfl, held, here⟩
    have shown := getElem?_withRepeats key [] items i
    rw [held] at shown
    obtain ⟨_, repeated⟩ := withRepeats_eq_some shown
    refine ⟨i, rest, _, rfl, shown, here.imp_left ?_⟩
    rintro ⟨empty, isAgain, shape⟩
    exact ⟨repeated.mpr isAgain, empty, shape⟩

/-- The faults of items of which nothing else is told. -/
theorem lists_repeats {γ : Type} (key : α → String) (items : List α) (problem : α → γ) :
    Lists (fun place b => ∃ i a, place = [i] ∧ items[i]? = some a ∧ Repeats key items i ∧
        b = problem a)
      ((withRepeats key [] items).flatMap fun (a, again) => if again then [problem a] else []) := by
  have listed := lists_withRepeats key items problem (fun _ => lists_nil fun _ _ => not_false)
    fun _ _ => not_false
  simp only [List.append_nil, or_false] at listed
  refine listed.congr fun place b => ?_
  constructor
  · rintro ⟨i, a, rest, rfl, held, rfl, again⟩
    exact ⟨i, a, rfl, held, again⟩
  · rintro ⟨i, a, rfl, held, again⟩
    exact ⟨i, a, [], rfl, held, rfl, again⟩

end

/-! ## Problems at their places -/

/-- A problem among the members of a declared type: at the position of a member for its name, and
one level further in for its parameters. -/
inductive Declaration.Faulty : Declaration → List Nat → Problem → Prop where
  | duplicateField {name : String} {fields : List Field} {j : Nat} {f : Field}
      (declared : fields[j]? = some f) (again : Repeats Field.name fields j) :
    Faulty ⟨name, .record fields⟩ [j] (.duplicateField f.name name)
  | duplicateMethod {name : String} {methods : List Method} {j : Nat} {k : Method}
      (declared : methods[j]? = some k) (again : Repeats Method.name methods j) :
    Faulty ⟨name, .capabilities methods⟩ [j] (.duplicateMethod k.name name)
  | variadicWithoutParams {name : String} {methods : List Method} {j : Nat} {k : Method}
      (declared : methods[j]? = some k) (variadic : k.variadic = true)
      (none_there : k.params = []) :
    Faulty ⟨name, .capabilities methods⟩ [j, 0] (.variadicWithoutParams k.name name)
  | variadicNotSlice {name : String} {methods : List Method} {j : Nat} {k : Method} {last : Param}
      (declared : methods[j]? = some k) (variadic : k.variadic = true)
      (isLast : k.params.getLast? = some last) (not_slice : ∀ t, last.type ≠ .slice t) :
    Faulty ⟨name, .capabilities methods⟩ [j, 0] (.variadicNotSlice last.name k.name name)

/-- A problem of a module: at 0 for its name, below 1 at the position of a declared type and below
that for its members, and below 2 at the position of an import. -/
inductive Module.Faulty (m : Module) : List Nat → Problem → Prop where
  | emptyName (empty : m.name = "") : m.Faulty [0] .emptyName
  | duplicateType {i : Nat} {d : Declaration} (declared : m.types.list[i]? = some d)
      (again : Repeats Declaration.name m.types.list i) :
    m.Faulty [1, i] (.duplicateType d.name)
  | member {i : Nat} {d : Declaration} {place : List Nat} {p : Problem}
      (declared : m.types.list[i]? = some d) (inside : d.Faulty place p) :
    m.Faulty (1 :: i :: place) p
  | duplicateImport {i : Nat} {imported : Import} (declared : m.imports[i]? = some imported)
      (again : Repeats Import.path m.imports i) :
    m.Faulty [2, i] (.duplicateImport imported.path)

/-- What is wrong with the parameters of a variadic method. -/
def VariadicFault (set : String) (k : Method) (place : List Nat) (p : Problem) : Prop :=
  place = [0] ∧ k.variadic = true ∧
    (k.params = [] ∧ p = .variadicWithoutParams k.name set ∨
      ∃ last, k.params.getLast? = some last ∧ (∀ t, last.type ≠ .slice t) ∧
        p = .variadicNotSlice last.name k.name set)

theorem isSlice_eq_true_iff {t : TypeExpr} : t.isSlice = true ↔ ∃ item, t = .slice item := by
  cases t <;> simp [TypeExpr.isSlice]

theorem lists_variadicProblems (set : String) (k : Method) :
    Lists (VariadicFault set k) (variadicProblems set k) := by
  unfold variadicProblems
  split
  · rename_i variadic
    split
    · rename_i empty
      exact lists_singleton [0] _ fun place p => by
        simp [VariadicFault, variadic, List.getLast?_eq_none_iff.mp empty]
    · rename_i last isLast
      have some_params : k.params ≠ [] := by
        intro empty
        rw [empty] at isLast
        cases isLast
      split
      · rename_i slice
        obtain ⟨item, shape⟩ := isSlice_eq_true_iff.mp slice
        exact lists_nil fun place p => by simp [VariadicFault, some_params, isLast, shape]
      · rename_i flat
        have not_slice : ∀ t, last.type ≠ .slice t := fun t shape =>
          flat (isSlice_eq_true_iff.mpr ⟨t, shape⟩)
        exact lists_singleton [0] _ fun place p => by
          simp [VariadicFault, variadic, some_params, isLast, not_slice]
  · rename_i fixed
    exact lists_nil fun place p => by simp [VariadicFault, fixed]

theorem Declaration.lists_problems (d : Declaration) : Lists d.Faulty d.problems := by
  obtain ⟨name, shape⟩ := d
  cases shape with
  | record fields =>
    refine (lists_repeats Field.name fields
      fun f => Problem.duplicateField f.name name).congr fun place p => ?_
    constructor
    · rintro ⟨j, f, rfl, declared, again, rfl⟩
      exact .duplicateField declared again
    · rintro (⟨declared, again⟩)
      exact ⟨_, _, rfl, declared, again, rfl⟩
  | capabilities methods =>
    refine (lists_withRepeats Method.name methods (fun k => Problem.duplicateMethod k.name name)
      (lists_variadicProblems name) (by simp [VariadicFault])).congr fun place p => ?_
    constructor
    · rintro ⟨j, k, rest, rfl, declared, ⟨rfl, again, rfl⟩ |
        ⟨rfl, variadic, ⟨none_there, rfl⟩ | ⟨last, isLast, not_slice, rfl⟩⟩⟩
      · exact .duplicateMethod declared again
      · exact .variadicWithoutParams declared variadic none_there
      · exact .variadicNotSlice declared variadic isLast not_slice
    · intro faulty
      cases faulty with
      | duplicateMethod declared again =>
        exact ⟨_, _, [], rfl, declared, .inl ⟨rfl, again, rfl⟩⟩
      | variadicWithoutParams declared variadic none_there =>
        exact ⟨_, _, [0], rfl, declared, .inr ⟨rfl, variadic, .inl ⟨none_there, rfl⟩⟩⟩
      | variadicNotSlice declared variadic isLast not_slice =>
        exact ⟨_, _, [0], rfl, declared, .inr ⟨rfl, variadic, .inr ⟨_, isLast, not_slice, rfl⟩⟩⟩
  | defined base =>
    refine lists_nil fun place p faulty => ?_
    cases faulty

/-- A problem among the members of a declared type is below the type's place. -/
theorem Declaration.Faulty.place_ne_nil {d : Declaration} {place : List Nat} {p : Problem}
    (h : d.Faulty place p) : place ≠ [] := by
  cases h <;> exact List.cons_ne_nil _ _

theorem Module.lists_problems (m : Module) : Lists m.Faulty m.problems := by
  have unnamed := lists_ite (m.name.isEmpty = true) [0] Problem.emptyName
  have types := (lists_withRepeats Declaration.name m.types.list
    (fun d => Problem.duplicateType d.name) Declaration.lists_problems
    fun _ _ faulty => faulty.place_ne_nil rfl).within 1
  have imports := (lists_repeats Import.path m.imports
    fun i => Problem.duplicateImport i.path).within 2
  refine ((unnamed.append types ?_).append imports ?_).congr fun place p => ?_
  · rintro place p place' p' ⟨_, rfl, _⟩ ⟨rest, rfl, _⟩
    exact List.cons_lt_cons_iff.mpr (.inl (by decide))
  · rintro place p place' p' faulty ⟨rest', rfl, _⟩
    rcases faulty with ⟨_, rfl, _⟩ | ⟨rest, rfl, _⟩
    · exact List.cons_lt_cons_iff.mpr (.inl (by decide))
    · exact List.cons_lt_cons_iff.mpr (.inl (by decide))
  · constructor
    · rintro ((⟨empty, rfl, rfl⟩ |
        ⟨_, rfl, i, d, rest, rfl, declared, ⟨rfl, again, rfl⟩ | inside⟩) |
        ⟨_, rfl, i, imported, rfl, declared, again, rfl⟩)
      · exact .emptyName (String.isEmpty_iff.mp empty)
      · exact .duplicateType declared again
      · exact .member declared inside
      · exact .duplicateImport declared again
    · intro faulty
      cases faulty with
      | emptyName empty => exact .inl (.inl ⟨String.isEmpty_iff.mpr empty, rfl, rfl⟩)
      | duplicateType declared again =>
        exact .inl (.inr ⟨_, rfl, _, _, [], rfl, declared, .inl ⟨rfl, again, rfl⟩⟩)
      | member declared inside =>
        exact .inl (.inr ⟨_, rfl, _, _, _, rfl, declared, .inr inside⟩)
      | duplicateImport declared again =>
        exact .inr ⟨_, rfl, _, _, rfl, declared, again, rfl⟩

/-! ## Modules without problems -/

/-- Names are there and distinct in their scopes, and the parameters of a variadic method end in a
slice. -/
structure Module.Faultless (m : Module) : Prop where
  name : m.name ≠ ""
  types : (m.types.list.map Declaration.name).Nodup
  fields : ∀ name fields, ⟨name, .record fields⟩ ∈ m.types.list → (fields.map Field.name).Nodup
  methods : ∀ name methods, ⟨name, .capabilities methods⟩ ∈ m.types.list →
    (methods.map Method.name).Nodup
  imports : (m.imports.map Import.path).Nodup
  variadic : ∀ name methods, ⟨name, .capabilities methods⟩ ∈ m.types.list → ∀ k ∈ methods,
    k.variadic = true → ∃ last item, k.params.getLast? = some last ∧ last.type = .slice item

theorem Declaration.Faulty.not_faultless {m : Module} {d : Declaration} {place : List Nat}
    {p : Problem} (declared : d ∈ m.types.list) (h : d.Faulty place p) : ¬ m.Faultless := by
  intro faultless
  cases h with
  | duplicateField _ again =>
    exact nodup_iff_not_repeats.mp (faultless.fields _ _ declared) _ again
  | duplicateMethod _ again =>
    exact nodup_iff_not_repeats.mp (faultless.methods _ _ declared) _ again
  | variadicWithoutParams method variadic none_there =>
    obtain ⟨last, _, isLast, _⟩ :=
      faultless.variadic _ _ declared _ (List.mem_of_getElem? method) variadic
    rw [none_there] at isLast
    cases isLast
  | variadicNotSlice method variadic isLast not_slice =>
    obtain ⟨last, item, isLast', slice⟩ :=
      faultless.variadic _ _ declared _ (List.mem_of_getElem? method) variadic
    obtain rfl := Option.some.inj (isLast.symm.trans isLast')
    exact not_slice item slice

theorem Module.faultless_iff (m : Module) : m.Faultless ↔ ∀ place p, ¬ m.Faulty place p := by
  constructor
  · intro faultless place p faulty
    cases faulty with
    | emptyName empty => exact faultless.name empty
    | duplicateType _ again => exact nodup_iff_not_repeats.mp faultless.types _ again
    | member declared inside =>
      exact inside.not_faultless (List.mem_of_getElem? declared) faultless
    | duplicateImport _ again => exact nodup_iff_not_repeats.mp faultless.imports _ again
  · intro none_faulty
    refine ⟨fun empty => none_faulty _ _ (.emptyName empty), ?_, ?_, ?_, ?_, ?_⟩
    · refine nodup_iff_not_repeats.mpr fun i again => ?_
      have ⟨d, declared, _⟩ := again
      exact none_faulty _ _ (.duplicateType declared again)
    · intro name fields mem
      obtain ⟨i, declared⟩ := List.mem_iff_getElem?.mp mem
      refine nodup_iff_not_repeats.mpr fun j again => ?_
      have ⟨f, field, _⟩ := again
      exact none_faulty _ _ (.member declared (.duplicateField field again))
    · intro name methods mem
      obtain ⟨i, declared⟩ := List.mem_iff_getElem?.mp mem
      refine nodup_iff_not_repeats.mpr fun j again => ?_
      have ⟨k, method, _⟩ := again
      exact none_faulty _ _ (.member declared (.duplicateMethod method again))
    · refine nodup_iff_not_repeats.mpr fun i again => ?_
      have ⟨imported, declared, _⟩ := again
      exact none_faulty _ _ (.duplicateImport declared again)
    · intro name methods mem k mem' variadic
      obtain ⟨i, declared⟩ := List.mem_iff_getElem?.mp mem
      obtain ⟨j, method⟩ := List.mem_iff_getElem?.mp mem'
      cases isLast : k.params.getLast? with
      | none =>
        have none_there := List.getLast?_eq_none_iff.mp isLast
        exact absurd (.member declared (.variadicWithoutParams method variadic none_there))
          (none_faulty _ _)
      | some last =>
        by_cases slice : ∃ item, last.type = .slice item
        · obtain ⟨item, shape⟩ := slice
          exact ⟨last, item, rfl, shape⟩
        · have not_slice : ∀ t, last.type ≠ .slice t := fun t shape => slice ⟨t, shape⟩
          exact absurd (.member declared (.variadicNotSlice method variadic isLast not_slice))
            (none_faulty _ _)

/-- The diagnostics of a module are all its problems, each at one place and in the order of
declaration, and all name the module's path. There is none exactly if names are there and distinct
in their scopes, and every variadic method has a slice as its last parameter. -/
theorem problems_listed (m : Module) :
    (m.diagnostics = [] ↔ m.Faultless) ∧
    Lists m.Faulty (m.diagnostics.map Diagnostic.problem) ∧
    ∀ d ∈ m.diagnostics, d.module = m.path := by
  have listed := m.lists_problems
  refine ⟨?_, ?_, fun d mem => ?_⟩
  · rw [Module.diagnostics, List.map_eq_nil_iff, listed.eq_nil_iff, m.faultless_iff]
  · simpa [Module.diagnostics, Function.comp_def] using listed
  · obtain ⟨p, _, rfl⟩ := List.mem_map.mp mem
    rfl

/-- A variadic method with a slice behind another parameter, in a set named as nothing else is. -/
def chattyModule : Module where
  path := "m"
  name := "m"
  types := .ofList [⟨"R", .record []⟩, ⟨"S", .capabilities [⟨"Log", true,
    [⟨"level", .named none "int"⟩, ⟨"v", .slice (.named none "any")⟩], []⟩]⟩]

theorem problems_listed_none : chattyModule.Faultless :=
  (problems_listed chattyModule).1.mp (by decide +kernel)

end Stencil
