import Stencil.Proofs.Catalog.Search
import Stencil.Proofs.Generate.Formatting
import Stencil.Proofs.Location.Destination

/-
  The diagnostics of a generation from manifests in files. Those of the module around the output
  come first, then those of the target's module, unless it is the same loaded object; and loads are
  the same object exactly if their locations have one key.

  Proved: `diagnostics_by_location`. A target that is named bare, or by any spelling of the
  output's directory, adds nothing. A module path never has the key of a directory, so where a root
  leads it to the manifest of that directory, everything is reported twice.
-/

namespace Stencil

/-! ## Manifests read -/

/-- What the manifest at a location says, with the key of the location. -/
structure Catalog.Reads (catalog : Catalog) (tree : FileTree) (location key manifest : String)
    (m : Module) : Prop where
  normal : Location.normalize tree.workingDir location = .ok key
  located : catalog.locate tree.isFile tree.workingDir key = .ok manifest
  read : ∃ text, tree.readText manifest = .ok text ∧ Manifest.read text = .ok m

namespace Catalog

variable {catalog : Catalog} {tree : FileTree} {location other key key' manifest manifest' : String}
  {m m' : Module} {files : List String}

theorem reads_of_find (normal : Location.normalize tree.workingDir location = .ok key)
    (found : catalog.find tree key = .ok (m, files)) :
    ∃ manifest, catalog.Reads tree location key manifest m := by
  unfold find at found
  obtain ⟨manifest, located, found⟩ := ok_of_bind found
  obtain ⟨text, content, found⟩ := ok_of_bind found
  obtain ⟨read, parsed, found⟩ := ok_of_bind found
  cases found
  exact ⟨manifest, normal, located, text, ok_of_mapError content, ok_of_mapError parsed⟩

theorem Reads.manifest_eq (h : catalog.Reads tree location key manifest m)
    (h' : catalog.Reads tree other key manifest' m') : manifest = manifest' := by
  have same := h.located.symm.trans h'.located
  exact Except.ok.inj same

/-- One text declares one module. -/
theorem Reads.module_eq (h : catalog.Reads tree location key manifest m)
    (h' : catalog.Reads tree other key' manifest' m')
    (same : tree.readText manifest = tree.readText manifest') : m = m' := by
  obtain ⟨text, content, parsed⟩ := h.read
  obtain ⟨text', content', parsed'⟩ := h'.read
  rw [content, content'] at same
  obtain rfl := Except.ok.inj same
  exact Except.ok.inj (parsed.symm.trans parsed')

end Catalog

/-! ## Keys of local locations -/

namespace Location

variable {workingDir : Option String} {location other key key' : String}

/-- What has the key of a directory is local too, and names that directory. -/
theorem key_eq_iff (loc : isLocal location = true)
    (normal : normalize workingDir location = .ok key)
    (normal' : normalize workingDir other = .ok key') :
    key = key' ↔ isLocal other = true ∧
      directory workingDir other = directory workingDir location := by
  have written := key_eq_write loc normal
  constructor
  · rintro rfl
    cases loc' : isLocal other with
    | false =>
      rw [normalize_of_not_isLocal loc'] at normal'
      rw [Except.ok.inj normal', written, isLocal_write] at loc'
      cases loc'
    | true =>
      refine ⟨rfl, write_inj (isName_directory workingDir other)
        (isName_directory workingDir location) ?_⟩
      rw [← written, ← key_eq_write loc' normal']
  · rintro ⟨loc', same⟩
    rw [written, key_eq_write loc' normal', same]

end Location

/-! ## Loads -/

namespace Library

variable {catalog : Catalog} {tree : FileTree} {c : Cache} {location : String} {facets : Facets}
  {loaded : Loaded}

/-- A load gives the diagnostics of the module that the manifest declares. -/
theorem Reached.reads (h : (ofCatalog catalog tree).Reached c)
    (granted : ((ofCatalog catalog tree).load location facets c).1 = .ok loaded) :
    ∃ key manifest m, catalog.Reads tree location key manifest m ∧
      loaded.snapshot.diagnostics = m.diagnostics := by
  cases normal : Location.normalize (ofCatalog catalog tree).workingDir location with
  | error e =>
    rw [load_of_error normal] at granted
    cases granted
  | ok key =>
    obtain ⟨serial, wide, _, asked⟩ := h.load_asked normal facets
    rw [granted] at asked
    obtain ⟨⟨m, files⟩, found, shape⟩ := ok_of_map asked.symm
    obtain ⟨manifest, reads⟩ := Catalog.reads_of_find normal found
    exact ⟨key, manifest, m, reads, by rw [← shape]; rfl⟩

end Library

/-- The diagnostics of a generation are those that the manifest of the output's directory has, and
then those of the target's manifest, unless the two locations have one key. They have if the target
is named bare or by a local location of that directory, and not otherwise; so where both lead to
one text but the target is named by a module path, the diagnostics are there twice. -/
theorem diagnostics_by_location {catalog : Catalog} {tree : FileTree}
    {engine : Render.Engine} {formatter : Formatter} {token : String} {selector : Selector}
    {source : Render.Source} {output : String} {args : Arguments} {c : Cache}
    {generated : Generated}
    (reached : (Library.ofCatalog catalog tree).Reached c)
    (made : ((Library.ofCatalog catalog tree).generate engine formatter token selector source
      output args c).1 = .ok generated) :
    ∃ key key' manifest manifest' around target,
      catalog.Reads tree (destination output) key manifest around ∧
      catalog.Reads tree (selector.module.getD (destination output)) key' manifest' target ∧
      generated.diagnostics =
        around.diagnostics ++ (if key = key' then [] else target.diagnostics) ∧
      (key = key' → manifest = manifest') ∧
      (tree.readText manifest = tree.readText manifest' →
        generated.diagnostics = if key = key' then around.diagnostics
          else around.diagnostics ++ around.diagnostics) ∧
      (key = key' ↔ selector.module = none ∨ ∃ location, selector.module = some location ∧
        Location.isLocal location = true ∧ Location.directory tree.workingDir location =
          Location.directory tree.workingDir (destination output)) := by
  rcases drafted : (Library.ofCatalog catalog tree).draft engine token selector source output args c
    with ⟨answer, c'⟩
  cases answer with
  | error e =>
    rw [Library.generate_of_error drafted] at made
    cases made
  | ok draft =>
    rw [Library.generate_of_ok drafted] at made
    obtain rfl := Except.ok.inj made
    obtain ⟨first, second, loads⟩ := Library.draftOf_of_ok drafted
    obtain ⟨key, manifest, around, reads, firsts⟩ := reached.reads loads.around_loaded
    obtain ⟨key', manifest', target, reads', seconds⟩ :=
      (reached.loaded _ _).reads loads.target_loaded
    have one : first.serial = second.serial ↔ key = key' :=
      reached.serial_eq_iff (show Facets.all.covers .target = true by decide) reads.normal
        reads'.normal loads.around_loaded loads.target_loaded
    have diagnostics : draft.diagnostics =
        around.diagnostics ++ (if key = key' then [] else target.diagnostics) := by
      rw [loads.diagnostics, firsts, seconds]
      simp only [one]
    refine ⟨key, key', manifest, manifest', around, target, reads, reads', diagnostics, ?_, ?_, ?_⟩
    · rintro rfl
      exact reads.manifest_eq reads'
    · intro same
      rw [reads.module_eq reads' same] at diagnostics ⊢
      refine diagnostics.trans ?_
      split <;> simp
    · rw [Location.key_eq_iff (isLocal_destination output) reads.normal reads'.normal]
      unfold Library.targetLocation
      cases selector.module with
      | none => simp [isLocal_destination]
      | some location => simp

/-! ## One manifest under two keys -/

namespace Nameless

/-- A record in a module without a name. -/
def text : String := "<module path=\"d\" name=\"\"><record name=\"R\"/></module>"

/-- The manifest of the directory `/r/d` is that of the module path `d` under the root `/r`. -/
def tree : FileTree :=
  FileTree.add {} ["r".toList, "d".toList, "module.xml".toList] (.file text.toUTF8)

def catalog : Catalog where
  roots := ["/r"]

theorem find_manifest : tree.find "/r/d/module.xml" = .ok (.file text.toUTF8) := by
  have plain : "/r/d/module.xml".contains '\x00' = false := by simp
  have parts : "/r/d/module.xml".toList.splitOn '/' = [[], ['r'], ['d'], "module.xml".toList] := by
    decide +kernel
  rw [FileTree.find, plain, parts]
  rfl

theorem isFile_manifest : tree.isFile "/r/d/module.xml" = true := by
  rw [FileTree.isFile, find_manifest]

theorem readText_manifest : tree.readText "/r/d/module.xml" = .ok text := by
  have decoded : String.fromUTF8? text.toUTF8 = some text := by decide +kernel
  rw [FileTree.readText, find_manifest]
  simp only [bind, Except.bind, decoded]

theorem locate_directory :
    catalog.locate tree.isFile tree.workingDir "/r/d" = .ok "/r/d/module.xml" := by
  have loc : Location.isLocal "/r/d" = true := by decide +kernel
  have normal : Location.normalize tree.workingDir "/r/d" = .ok "/r/d" := by decide +kernel
  have manifest : Paths.join "/r/d" catalog.manifestName = "/r/d/module.xml" := by decide +kernel
  rw [Location.locate_of_isLocal catalog tree.isFile loc normal, manifest, if_pos isFile_manifest]

theorem locate_path : catalog.locate tree.isFile tree.workingDir "d" = .ok "/r/d/module.xml" := by
  have path : Location.isLocal "d" = false := by decide +kernel
  have candidates : catalog.candidates "d" = ["/r/d/module.xml"] := by decide +kernel
  rw [Catalog.locate_of_not_isLocal _ _ _ path, candidates]
  simp only [Catalog.found, List.foldl_cons, List.foldl_nil, isFile_manifest, List.any_nil,
    Bool.not_false, Bool.and_self, if_true, List.nil_append]
  rfl

/-- What both locations lead to. -/
def answer : Except LoadError (Module × List String) := do
  let m ← (Manifest.read text).mapError (.malformed "/r/d/module.xml")
  .ok (m, ["/r/d/module.xml"])

theorem find_eq {location : String}
    (located : catalog.locate tree.isFile tree.workingDir location = .ok "/r/d/module.xml") :
    catalog.find tree location = answer := by
  unfold Catalog.find
  rw [located]
  change ((tree.readText "/r/d/module.xml").mapError (LoadError.unreadable "/r/d/module.xml") >>= _)
    = answer
  rw [readText_manifest]
  rfl

/-- The two loads of the generation do not look into the file tree. -/
theorem library_eq : Library.ofCatalog catalog tree =
    { Library.ofCatalog catalog tree with
      loader := .ofModules fun location =>
        if location = "/r/d" ∨ location = "d" then answer else catalog.find tree location } := by
  have found : catalog.find tree = fun location =>
      if location = "/r/d" ∨ location = "d" then answer else catalog.find tree location := by
    funext location
    split
    case isTrue h =>
      rcases h with rfl | rfl
      · exact find_eq locate_directory
      · exact find_eq locate_path
    case isFalse => rfl
  exact congrArg (fun find => { Library.ofCatalog catalog tree with loader := .ofModules find }) found

end Nameless

theorem diagnostics_by_location_twice :
    ((Library.ofCatalog Nameless.catalog Nameless.tree).generate Plain.engine .unchanged "token"
      ⟨some "d", "R"⟩ ⟨"r.txt", "{{ name }}"⟩ "/r/d/r.go" {} {}).1.toOption.map (·.diagnostics) =
      some [⟨"d", .emptyName⟩, ⟨"d", .emptyName⟩] := by
  let run := ((Library.ofCatalog Nameless.catalog Nameless.tree).generate Plain.engine .unchanged
    "token" ⟨some "d", "R"⟩ ⟨"r.txt", "{{ name }}"⟩ "/r/d/r.go" {} {}).1
  change run.toOption.map (·.diagnostics) = _
  have succeeds : run.toOption.isSome = true := by
    unfold run
    rw [Nameless.library_eq]
    decide +kernel
  rcases made : run with e | generated
  · rw [made] at succeeds
    cases succeeds
  obtain ⟨key, key', manifest, manifest', around, target, reads, reads', -, -, same, -⟩ :=
    diagnostics_by_location .fresh made
  have key_eq : key = "/r/d" := by
    have normal : Location.normalize Nameless.tree.workingDir (destination "/r/d/r.go") =
      .ok "/r/d" := by decide +kernel
    exact Except.ok.inj (reads.normal.symm.trans normal)
  have key'_eq : key' = "d" := by
    have normal : Location.normalize Nameless.tree.workingDir "d" = .ok "d" := by decide +kernel
    exact Except.ok.inj (reads'.normal.symm.trans normal)
  subst key_eq key'_eq
  have manifest_eq := Except.ok.inj (reads.located.symm.trans Nameless.locate_directory)
  have manifest'_eq := Except.ok.inj (reads'.located.symm.trans Nameless.locate_path)
  subst manifest_eq manifest'_eq
  have around_eq : around.diagnostics = [⟨"d", .emptyName⟩] := by
    obtain ⟨text, content, parsed⟩ := reads.read
    rw [Nameless.readText_manifest] at content
    obtain rfl := Except.ok.inj content
    have problems : (Manifest.read Nameless.text).toOption.map (·.diagnostics) =
      some [⟨"d", .emptyName⟩] := by decide +kernel
    rw [parsed] at problems
    exact Option.some.inj problems
  have twice := same rfl
  rw [if_neg (by decide), around_eq] at twice
  exact congrArg some twice

end Stencil
