import Stencil.Proofs.ImportBlock.Alias

/-
  Histories of a block. A block begins empty and is asked for aliases, types, canonical types
  and its text, in any order and for any modules; short names are arbitrary, and one path may
  come with several.

  Proved: `alias_history`. An alias once given stays, no two modules share one, the modules of
  the block are those asked for and the owners of the types written, the text lists each of
  them once, and every type as written can be read back to its canonical form.
-/

namespace Stencil.ImportBlock

/-! ## Operations -/

inductive Op where
  | aliasFor (m : ModuleName)
  | typeString (t : TypeExpr)
  | canonical (t : TypeExpr)
  | alias? (path : String)
  | emit

/-- What an operation answers, and the block it leaves. -/
def act (b : ImportBlock) : Op → Option String × ImportBlock
  | .aliasFor m => (some (b.aliasFor m).1, (b.aliasFor m).2)
  | .typeString t => (some (b.typeString t).1, (b.typeString t).2)
  | .canonical t => (some t.canonical, b)
  | .alias? path => (b.alias? path, b)
  | .emit => (some b.emit, b)

/-- The block after some operations. -/
def run (b : ImportBlock) (ops : List Op) : ImportBlock := ops.foldl (fun b op => (b.act op).2) b

/-- The block after some operations on a fresh one. -/
def after (target : String) (ops : List Op) : ImportBlock := run { target } ops

/-- Whether an operation brings the module of a path into the block. -/
def Op.Registers (target path : String) : Op → Prop
  | .aliasFor m => m.path = path
  | .typeString t =>
    ∃ owner name, t.leaf = .named (some owner) name ∧ owner.path ≠ target ∧ owner.path = path
  | _ => False

/-- The module behind an alias. -/
def path? (b : ImportBlock) (name : String) : Option String :=
  (b.aliases.rows.find? (·.2 = name)).map (·.1)

/-! ## One operation -/

variable {b : ImportBlock}

theorem target_act (b : ImportBlock) (op : Op) : (b.act op).2.target = b.target := by
  cases op with
  | aliasFor m => exact target_aliasFor b m
  | typeString t => exact target_typeString b t
  | canonical t => rfl
  | alias? path => rfl
  | emit => rfl

theorem sound_act (h : Sound b) (op : Op) : Sound (b.act op).2 := by
  cases op with
  | aliasFor m => exact sound_aliasFor h m
  | typeString t => exact sound_typeString h t
  | canonical t => exact h
  | alias? path => exact h
  | emit => exact h

theorem alias?_act_of_some {path name : String} (h : b.alias? path = some name) (op : Op) :
    (b.act op).2.alias? path = some name := by
  cases op with
  | aliasFor m => exact alias?_aliasFor_of_some h m
  | typeString t => exact alias?_typeString_of_some h t
  | canonical t => exact h
  | alias? path => exact h
  | emit => exact h

theorem isSome_alias?_act (b : ImportBlock) (op : Op) (path : String) :
    ((b.act op).2.alias? path).isSome ↔
      (b.alias? path).isSome ∨ op.Registers b.target path := by
  cases op with
  | aliasFor m => exact isSome_alias?_aliasFor b m path
  | typeString t =>
    simp only [act, isSome_alias?_typeString, Op.Registers, TypeExpr.foreign?_eq_some_iff,
      and_assoc]
  | canonical t => simp [act, Op.Registers]
  | alias? other => simp [act, Op.Registers]
  | emit => simp [act, Op.Registers]

/-! ## Any number of operations -/

theorem run_append (b : ImportBlock) (ops later : List Op) :
    run b (ops ++ later) = run (run b ops) later := by
  simp only [run, List.foldl_append]

theorem target_run (b : ImportBlock) (ops : List Op) : (run b ops).target = b.target := by
  induction ops generalizing b with
  | nil => rfl
  | cons op ops ih => exact (ih _).trans (target_act b op)

theorem sound_run (h : Sound b) (ops : List Op) : Sound (run b ops) := by
  induction ops generalizing b with
  | nil => exact h
  | cons op ops ih => exact ih (sound_act h op)

theorem alias?_run_of_some {path name : String} (h : b.alias? path = some name)
    (ops : List Op) : (run b ops).alias? path = some name := by
  induction ops generalizing b with
  | nil => exact h
  | cons op ops ih => exact ih (alias?_act_of_some h op)

theorem isSome_alias?_run (b : ImportBlock) (ops : List Op) (path : String) :
    ((run b ops).alias? path).isSome ↔
      (b.alias? path).isSome ∨ ∃ op ∈ ops, op.Registers b.target path := by
  induction ops generalizing b with
  | nil => simp [run]
  | cons op ops ih =>
    have step := ih (b.act op).2
    rw [isSome_alias?_act, target_act, or_assoc] at step
    simpa [run] using step

theorem target_after (target : String) (ops : List Op) : (after target ops).target = target :=
  target_run _ ops

theorem sound_after (target : String) (ops : List Op) : Sound (after target ops) :=
  sound_run (sound_fresh target) ops

/-- What stood in the block in the middle of a history stands there at its end. -/
theorem alias?_after_append {target path name : String} {ops : List Op}
    (h : (after target ops).alias? path = some name) (later : List Op) :
    (after target (ops ++ later)).alias? path = some name := by
  rw [after, run_append]
  exact alias?_run_of_some h later

/-- The block at the end of a history holds what any operation in it left behind. -/
theorem alias?_after_of_act {target path name : String} {ops : List Op} (op : Op)
    (h : ((after target ops).act op).2.alias? path = some name) (later : List Op) :
    (after target (ops ++ op :: later)).alias? path = some name := by
  rw [after, run_append]
  exact alias?_run_of_some (b := ((after target ops).act op).2) h later

/-! ## Reading aliases back -/

theorem path?_eq_some_iff (h : Sound b) {name path : String} :
    b.path? name = some path ↔ b.alias? path = some name := by
  unfold path? alias?
  rw [← Table.mem_rows, Option.map_eq_some_iff]
  constructor
  · rintro ⟨row, found, rfl⟩
    have same : row.2 = name := by simpa using List.find?_some found
    exact same ▸ List.mem_of_find?_eq_some found
  · intro mem
    have some_row : (b.aliases.rows.find? (·.2 = name)).isSome := by
      rw [List.find?_isSome]
      exact ⟨_, mem, by simp⟩
    obtain ⟨row, found⟩ := Option.isSome_iff_exists.mp some_row
    have same : row.2 = name := by simpa using List.find?_some found
    have held : b.alias? row.1 = some name :=
      (Table.mem_rows _ _ _).mp (same ▸ List.mem_of_find?_eq_some found)
    exact ⟨row, found, h.apart held ((Table.mem_rows _ _ _).mp mem)⟩

theorem rows_ascend (b : ImportBlock) : (b.aliases.rows.map Prod.fst).Pairwise (· < ·) :=
  List.pairwise_map.mpr b.aliases.ascending

/-- A foreign type as written holds an alias that the block reads back to the owner. -/
theorem typeString_reads_back {target : String} {t : TypeExpr} {owner : ModuleName}
    {name : String} (before later : List Op) (leaf : t.leaf = .named (some owner) name)
    (differ : owner.path ≠ target) :
    ∃ shown, ((after target before).act (.typeString t)).1 =
        some (t.markerText ++ shown ++ "." ++ name) ∧
      (after target (before ++ .typeString t :: later)).path? shown = some owner.path := by
  have foreign : t.foreign? (after target before).target = some (owner, name) := by
    rw [target_after]
    exact TypeExpr.foreign?_eq_some_iff.mpr ⟨leaf, differ⟩
  refine ⟨((after target before).aliasFor owner).1, ?_, ?_⟩
  · simp only [act, typeString_of_some foreign]
  · rw [path?_eq_some_iff (sound_after _ _)]
    apply alias?_after_of_act
    simp only [act, typeString_of_some foreign]
    exact alias?_aliasFor_self _ owner

/-- The history of a block: aliases stay and are not shared, and the text and the types
written agree with them. -/
theorem alias_history (target : String) (ops : List Op) :
    -- an alias once given stays, and is what every later call for the path answers
    (∀ before m later, ops = before ++ .aliasFor m :: later →
      ((after target before).act (.aliasFor m)).1 = (after target ops).alias? m.path) ∧
    (∀ path name, (after target ops).alias? path = some name → ∀ later,
      ((after target (ops ++ later)).act (.alias? path)).1 = some name ∧
      ∀ m, m.path = path → (after target (ops ++ later)).act (.aliasFor m) =
        (some name, after target (ops ++ later))) ∧
    -- no two paths share an alias
    (∀ p q name, (after target ops).alias? p = some name →
      (after target ops).alias? q = some name → p = q) ∧
    -- the paths of the block
    (∀ path, ((after target ops).alias? path).isSome ↔
      (∃ m, .aliasFor m ∈ ops ∧ m.path = path) ∨
      ∃ t owner name, .typeString t ∈ ops ∧ t.leaf = .named (some owner) name ∧
        owner.path ≠ target ∧ owner.path = path) ∧
    -- the text
    (∃ rows : List (String × String),
      (after target ops).emit = "import (\n" ++ String.join (rows.map line) ++ ")" ∧
      (rows.map Prod.fst).Pairwise (· < ·) ∧
      ∀ path name, (path, name) ∈ rows ↔ (after target ops).alias? path = some name) ∧
    -- types as written, read back
    (∀ before t later owner name, ops = before ++ .typeString t :: later →
      t.leaf = .named (some owner) name → owner.path ≠ target →
      ∃ shown, ((after target before).act (.typeString t)).1 =
          some (t.markerText ++ shown ++ "." ++ name) ∧
        (after target ops).path? shown = some owner.path ∧
        t.canonical = t.markerText ++ Text.quoted owner.path ++ "." ++ name) := by
  refine ⟨?_, ?_, ?_, ?_, ?_, ?_⟩
  · rintro before m later rfl
    have held := alias?_aliasFor_self (after target before) m
    exact (alias?_after_of_act (.aliasFor m) held later).symm
  · intro path name held later
    have held' := alias?_after_append held later
    refine ⟨held', fun m same => ?_⟩
    subst same
    simp only [act, aliasFor_of_some held']
  · intro p q name
    exact (sound_after target ops).apart
  · intro path
    rw [after, isSome_alias?_run]
    constructor
    · rintro (h | ⟨op, mem, registers⟩)
      · cases h
      · cases op with
        | aliasFor m => exact .inl ⟨m, mem, registers⟩
        | typeString t =>
          obtain ⟨owner, name, h⟩ := registers
          exact .inr ⟨t, owner, name, mem, h⟩
        | canonical t => exact registers.elim
        | alias? path => exact registers.elim
        | emit => exact registers.elim
    · rintro (⟨m, mem, same⟩ | ⟨t, owner, name, mem, h⟩)
      · exact .inr ⟨_, mem, same⟩
      · exact .inr ⟨_, mem, owner, name, h⟩
  · exact ⟨_, rfl, rows_ascend _, fun path name => Table.mem_rows _ path name⟩
  · rintro before t later owner name rfl leaf differ
    obtain ⟨shown, written, back⟩ :=
      typeString_reads_back before later leaf differ
    refine ⟨shown, written, back, ?_⟩
    simp only [TypeExpr.canonical, leaf]

end Stencil.ImportBlock
