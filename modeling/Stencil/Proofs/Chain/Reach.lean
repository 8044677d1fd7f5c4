import Mathlib.Data.Set.Card
import Mathlib.Data.Set.Finite.Lattice
import Stencil.Library
import Stencil.Proofs.Manifest.Extent

/-
  How far libraries of manifests reach. The types within reach of such a library are written in
  its manifests, and it allows a step for every byte of them and two more.

  Proved: `Library.reach_ofShelf` and `Library.reach_ofCatalog`, two steps more than there are
  types are allowed.
-/

namespace Stencil

/-! ## Keys of declared types -/

/-- The keys of the types of a module. -/
def Module.keys (m : Module) : List (String × String) :=
  m.types.list.map fun d => (m.path, d.name)

/-- The keys of all types that some modules declare. -/
def declaredKeys (modules : String → Except LoadError Module) : Set (String × String) :=
  {key | ∃ location m, modules location = .ok m ∧ key ∈ m.keys}

/-- Modules without their files. -/
def modulesOf (find : String → Except LoadError (Module × List String)) (location : String) :
    Except LoadError Module :=
  (find location).map Prod.fst

/-- Where modules are at finitely many locations, they declare finitely many types. -/
theorem finite_declaredKeys {modules : String → Except LoadError Module}
    (finite : {location | ∃ m, modules location = .ok m}.Finite) :
    (declaredKeys modules).Finite := by
  refine (finite.biUnion (t := fun location => {key | ∃ m, modules location = .ok m ∧
    key ∈ m.keys}) fun location _ => ?_).subset ?_
  · cases modules location with
    | error e => simp
    | ok m =>
      refine (List.finite_toSet m.keys).subset ?_
      rintro key ⟨_, ⟨⟩, mem⟩
      exact mem
  · rintro key ⟨location, m, found, mem⟩
    exact Set.mem_biUnion (show location ∈ {location | _} from ⟨m, found⟩) ⟨m, found, mem⟩

theorem ncard_le_length {keys : Set (String × String)} {list : List (String × String)}
    (listed : ∀ key ∈ keys, key ∈ list) : keys.ncard ≤ list.length := by
  calc keys.ncard
      ≤ (list.toFinset : Set (String × String)).ncard :=
        Set.ncard_le_ncard (fun key mem => by simpa using listed key mem) (Finset.finite_toSet _)
    _ = list.toFinset.card := Set.ncard_coe_finset _
    _ ≤ list.length := List.toFinset_card_le list

/-- What is allowed for the keys of each row is allowed for those of all. -/
theorem length_flatMap_le_foldr {α : Type} {keys : α → List (String × String)}
    {allowed : α → Nat → Nat} (each : ∀ row n, (keys row).length + n ≤ allowed row n)
    (rows : List α) (n : Nat) : (rows.flatMap keys).length + n ≤ rows.foldr allowed n := by
  induction rows with
  | nil => exact Nat.le_of_eq (Nat.zero_add n)
  | cons row rows ih =>
    rw [List.flatMap_cons, List.length_append, List.foldr_cons, Nat.add_assoc]
    exact Nat.le_trans (Nat.add_le_add_left ih _) (each row _)

/-- The keys of what a text declares, if it is a manifest. -/
def Manifest.keys (text : String) : List (String × String) :=
  match Manifest.read text with
  | .ok m => m.keys
  | .error _ => []

theorem Manifest.length_keys_le (text : String) : (keys text).length ≤ text.utf8ByteSize := by
  unfold keys
  cases read : Manifest.read text with
  | error why => exact Nat.zero_le _
  | ok m =>
    refine Nat.le_trans (Nat.le_of_eq ?_) (length_types_le read)
    exact List.length_map _

theorem Manifest.mem_keys {text : String} {m : Module} (read : Manifest.read text = .ok m)
    {key : String × String} (mem : key ∈ m.keys) : key ∈ keys text := by
  unfold keys
  rw [read]
  exact mem

/-! ## Manifests in memory -/

theorem Shelf.keys_listed (shelf : Shelf) : ∀ key ∈ declaredKeys (modulesOf shelf.find),
    key ∈ shelf.texts.flatMap fun row => Manifest.keys row.2 := by
  rintro key ⟨location, m, found, mem⟩
  obtain ⟨⟨_, files⟩, held, rfl⟩ := ok_of_map found
  unfold find at held
  dsimp only at held
  split at held
  · cases held
  · rename_i text listed
    obtain ⟨read, parsed, same⟩ := ok_of_bind held
    cases same
    obtain ⟨before, after, rows, _⟩ := List.lookup_eq_some_iff.mp listed
    have row : (location, text) ∈ shelf.texts := by
      rw [rows]
      simp
    exact List.mem_flatMap.mpr ⟨_, row, Manifest.mem_keys (ok_of_mapError parsed) mem⟩

theorem Library.reach_ofShelf (shelf : Shelf) (workingDir : Option String) :
    (declaredKeys (modulesOf shelf.find)).ncard + 2 ≤ (ofShelf shelf workingDir).reach := by
  have each (row : String × String) (n : Nat) :
      (Manifest.keys row.2).length + n ≤ row.2.utf8ByteSize + n :=
    Nat.add_le_add_right (Manifest.length_keys_le row.2) n
  calc (declaredKeys (modulesOf shelf.find)).ncard + 2
      ≤ (shelf.texts.flatMap fun row => Manifest.keys row.2).length + 2 :=
        Nat.add_le_add_right (ncard_le_length shelf.keys_listed) 2
    _ ≤ (ofShelf shelf workingDir).reach := length_flatMap_le_foldr each shelf.texts 2

/-! ## Manifests in files -/

/-- The keys of what a file declares. -/
def FileTree.Entry.keys : FileTree.Entry → List (String × String)
  | .file content =>
    match String.fromUTF8? content with
    | some text => Manifest.keys text
    | none => []
  | _ => []

namespace FileTree

variable {tree : FileTree} {path text : String} {entry : Entry}

theorem size_of_fromUTF8? {content : ByteArray} (h : String.fromUTF8? content = some text) :
    text.utf8ByteSize = content.size := by
  unfold String.fromUTF8? at h
  split at h
  · cases h
    rfl
  · cases h

theorem Entry.length_keys_le (content : ByteArray) :
    (Entry.file content).keys.length ≤ content.size := by
  unfold keys
  dsimp only
  split
  · rename_i text decoded
    rw [← size_of_fromUTF8? decoded]
    exact Manifest.length_keys_le text
  · exact Nat.zero_le _

theorem mem_of_walk {at_ parts : List (List Char)} {start : Entry}
    (h : tree.walk at_ start parts = .ok entry) :
    entry = start ∨ ∃ path, (path, entry) ∈ tree.entries.rows := by
  induction parts generalizing at_ start with
  | nil =>
    cases h
    exact .inl rfl
  | cons part parts ih =>
    cases start with
    | file content => cases h
    | device => cases h
    | directory =>
      rw [walk] at h
      split at h
      · exact ih h
      split at h
      · cases h
      split at h
      · rename_i next found
        rcases ih h with rfl | listed
        · exact .inr ⟨_, (Table.mem_rows _ _ _).mpr found⟩
        · exact .inr listed
      · cases h

/-- A text that is read is that of a file of the tree, or empty. -/
theorem file_of_readText (h : tree.readText path = .ok text) : text = "" ∨
    ∃ place content, (place, .file content) ∈ tree.entries.rows ∧
      String.fromUTF8? content = some text := by
  unfold readText at h
  obtain ⟨entry, found, h⟩ := ok_of_bind h
  have listed : entry = .directory ∨ ∃ place, (place, entry) ∈ tree.entries.rows := by
    unfold find at found
    split at found
    · cases found
    split at found
    · cases found
    split at found
    · cases found
    · exact mem_of_walk found
  cases entry with
  | directory => cases h
  | device =>
    cases h
    exact .inl rfl
  | file content =>
    dsimp only at h
    split at h
    · rename_i text decoded
      cases h
      rcases listed with other | ⟨place, mem⟩
      · cases other
      · exact .inr ⟨place, content, mem, decoded⟩
    · cases h

end FileTree

theorem Catalog.keys_listed (catalog : Catalog) (tree : FileTree) :
    ∀ key ∈ declaredKeys (modulesOf (catalog.find tree)),
      key ∈ tree.entries.rows.flatMap fun row => row.2.keys := by
  rintro key ⟨location, m, found, mem⟩
  obtain ⟨⟨_, files⟩, held, rfl⟩ := ok_of_map found
  unfold find at held
  obtain ⟨manifest, _, held⟩ := ok_of_bind held
  obtain ⟨text, content, held⟩ := ok_of_bind held
  obtain ⟨read, parsed, same⟩ := ok_of_bind held
  cases same
  have listed := Manifest.mem_keys (ok_of_mapError parsed) mem
  rcases FileTree.file_of_readText (ok_of_mapError content) with rfl | ⟨place, bytes, file, decoded⟩
  · have some_there := List.length_pos_of_mem listed
    have none_there := Manifest.length_keys_le ""
    exact absurd (Nat.lt_of_lt_of_le some_there none_there) (Nat.lt_irrefl 0)
  · refine List.mem_flatMap.mpr ⟨(place, .file bytes), file, ?_⟩
    simp only [FileTree.Entry.keys, decoded]
    exact listed

theorem Library.reach_ofCatalog (catalog : Catalog) (tree : FileTree) :
    (declaredKeys (modulesOf (catalog.find tree))).ncard + 2 ≤ (ofCatalog catalog tree).reach := by
  have each (row : String × FileTree.Entry) (n : Nat) : row.2.keys.length + n ≤
      match row.2 with
      | .file content => content.size + n
      | _ => n := by
    obtain ⟨place, entry⟩ := row
    cases entry with
    | directory => exact Nat.le_of_eq (Nat.zero_add n)
    | device => exact Nat.le_of_eq (Nat.zero_add n)
    | file content => exact Nat.add_le_add_right (FileTree.Entry.length_keys_le content) n
  calc (declaredKeys (modulesOf (catalog.find tree))).ncard + 2
      ≤ (tree.entries.rows.flatMap fun row => row.2.keys).length + 2 :=
        Nat.add_le_add_right (ncard_le_length (catalog.keys_listed tree)) 2
    _ ≤ (ofCatalog catalog tree).reach := length_flatMap_le_foldr each tree.entries.rows 2

end Stencil
