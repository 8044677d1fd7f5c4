import Stencil.Library

/-
  Histories of a cache. It begins empty; modules are requested, in any spelling of their
  location and with any facets, and now and then it is cleared. The loader may answer anything,
  and differently from call to call.

  Proved: `cache_history`. A location is kept with the facets of all requests that were
  granted since the cache was cleared; the loader is called for what they do not cover, once,
  and asked for them too; a request that fails leaves what is kept as it is; without a call
  the answer is that of the last load; and no location is loaded more than six times.
  `calls_not_bounded`: calls that fail are not counted there, as nothing is kept of them.
-/

namespace Stencil

/-! ## One request -/

namespace Cache

/-- The facets that a module is kept with. -/
def held? (c : Cache) (key : String) : Option Facets := (c.entries.find? key).map (·.facets)

/-- The facets that a request is loaded with: its own and those of the module as kept. -/
def wanted (c : Cache) (key : String) (facets : Facets) : Facets :=
  ((c.held? key).getD {}).union facets

/-- Whether the module as kept answers a request. -/
def Covered (c : Cache) (key : String) (facets : Facets) : Prop :=
  ∃ held, c.held? key = some held ∧ held.covers facets = true

/-- The cache, with a call of the loader for a request. -/
def calling (c : Cache) (key : String) (facets : Facets) : Cache :=
  { c with calls := c.calls ++ [⟨key, c.wanted key facets⟩] }

/-- The cache, with what the loader answered to that call. -/
def keeping (c : Cache) (key : String) (facets : Facets) (snapshot : Snapshot) : Cache where
  entries := c.entries.put key ⟨c.wanted key facets, ⟨c.calls.length, snapshot⟩⟩
  calls := (c.calling key facets).calls

/-- What a request can come to. -/
inductive Requested (c : Cache) (loader : Loader) (key : String) (facets : Facets) :
    Except LoadError Loaded × Cache → Prop
  | kept {entry : Entry} (found : c.entries.find? key = some entry)
      (covers : entry.facets.covers facets = true) :
      Requested c loader key facets (.ok entry.loaded, c)
  | failed {e : LoadError} (short : ¬ c.Covered key facets)
      (answer : loader c.calls.length key (c.wanted key facets) = .error e) :
      Requested c loader key facets (.error e, c.calling key facets)
  | loaded {snapshot : Snapshot} (short : ¬ c.Covered key facets)
      (answer : loader c.calls.length key (c.wanted key facets) = .ok snapshot) :
      Requested c loader key facets
        (.ok ⟨c.calls.length, snapshot⟩, c.keeping key facets snapshot)

theorem held?_eq_of_find? {c : Cache} {key : String} {entry : Entry}
    (h : c.entries.find? key = some entry) : c.held? key = some entry.facets := by
  simp [held?, h]

theorem held?_keeping (c : Cache) (key : String) (facets : Facets) (snapshot : Snapshot)
    (other : String) : (c.keeping key facets snapshot).held? other =
      if other = key then some (c.wanted key facets) else c.held? other := by
  unfold held? keeping
  rw [Table.find?_put]
  split
  · rfl
  · rfl

theorem requested_fetch {c : Cache} (loader : Loader) {key : String} {facets : Facets}
    (short : ¬ c.Covered key facets) :
    Requested c loader key facets (c.fetch loader key (c.wanted key facets)) := by
  unfold fetch
  dsimp only
  split
  · rename_i e answer
    exact .failed short answer
  · rename_i snapshot answer
    exact .loaded short answer

theorem requested (c : Cache) (loader : Loader) (key : String) (facets : Facets) :
    Requested c loader key facets (c.request loader key facets) := by
  unfold request
  split
  · rename_i none_kept
    have none_held : c.held? key = none := by simp [held?, none_kept]
    have all_wanted : c.wanted key facets = facets := by
      rw [wanted, none_held]
      exact Facets.empty_union facets
    have short : ¬ c.Covered key facets := by
      rintro ⟨held, found, _⟩
      rw [none_held] at found
      cases found
    have fetched := requested_fetch loader short
    rwa [all_wanted] at fetched
  · rename_i entry found
    have held := held?_eq_of_find? found
    split
    · rename_i covers
      exact .kept found covers
    · rename_i not_covers
      have all_wanted : c.wanted key facets = entry.facets.union facets := by
        rw [wanted, held]
        rfl
      rw [← all_wanted]
      refine requested_fetch loader ?_
      rintro ⟨other, found', covers⟩
      rw [held] at found'
      cases found'
      exact not_covers covers

end Cache

/-! ## Histories -/

namespace Library

inductive Op where
  | load (location : String) (facets : Facets)
  | clear

/-- A request and what came of it. -/
structure Visit where
  /-- The normalized location, if there is one. -/
  key? : Option String
  facets : Facets
  answer : Except LoadError Loaded
  /-- The calls of the loader that it made. -/
  calls : List Call

/-- A cache and the requests to it since it was cleared, the earliest first. -/
structure Past where
  cache : Cache := {}
  visits : List Visit := []

def visit (lib : Library) (c : Cache) (location : String) (facets : Facets) : Visit where
  key? := (Location.normalize lib.workingDir location).toOption
  facets := facets
  answer := (lib.load location facets c).1
  calls := (lib.load location facets c).2.calls.drop c.calls.length

def step (lib : Library) (p : Past) : Op → Past
  | .load location facets =>
    ⟨(lib.load location facets p.cache).2, p.visits ++ [lib.visit p.cache location facets]⟩
  | .clear => ⟨p.cache.clear, []⟩

/-- Some operations on an empty cache. -/
def run (lib : Library) (ops : List Op) : Past := ops.foldl lib.step {}

/-- The facets that a location was asked for with, if it was granted. -/
def Visit.granted? (key : String) (v : Visit) : Option Facets :=
  match v.answer with
  | .ok _ => if v.key? = some key then some v.facets else none
  | .error _ => none

/-- What was loaded from a location, if it was. -/
def Visit.loaded? (key : String) (v : Visit) : Option Loaded :=
  match v.answer with
  | .ok loaded => if v.key? = some key ∧ v.calls ≠ [] then some loaded else none
  | .error _ => none

/-- The facets of the requests for a location that were granted. -/
def granted (key : String) (visits : List Visit) : List Facets := visits.filterMap (·.granted? key)

/-- The loads of a location that succeeded. -/
def loads (key : String) (visits : List Visit) : List Loaded := visits.filterMap (·.loaded? key)

/-- All facets together, if there are any. -/
def union? (fs : List Facets) : Option Facets :=
  if fs = [] then none else some (fs.foldl Facets.union {})

theorem union?_concat (fs : List Facets) (f : Facets) :
    union? (fs ++ [f]) = some (((union? fs).getD {}).union f) := by
  unfold union?
  cases fs with
  | nil => rfl
  | cons g fs => simp

/-! ## What a history keeps -/

/-- What is kept is what was granted, and was loaded at most once for each facet more. -/
structure Faithful (p : Past) : Prop where
  held : ∀ key, p.cache.held? key = union? (granted key p.visits)
  last : ∀ key, (p.cache.entries.find? key).map (·.loaded) = (loads key p.visits).getLast?
  few : ∀ key, (loads key p.visits).length ≤
    ((p.cache.held? key).map fun held => held.count + 1).getD 0
  ascending : ∀ key, ((loads key p.visits).map (·.serial)).Pairwise (· < ·)
  earlier : ∀ key, ∀ loaded ∈ loads key p.visits, loaded.serial < p.cache.calls.length

theorem faithful_empty (calls : List Call) : Faithful ⟨⟨.empty, calls⟩, []⟩ where
  held _ := rfl
  last _ := rfl
  few _ := Nat.zero_le _
  ascending _ := .nil
  earlier _ _ mem := by cases mem

variable {c : Cache} {visits : List Visit} {v : Visit}

/-- A visit that neither granted nor changed anything. -/
theorem Faithful.idle {c' : Cache} (h : Faithful ⟨c, visits⟩) (same : c'.entries = c.entries)
    (longer : c.calls.length ≤ c'.calls.length) (not_granted : ∀ key, v.granted? key = none)
    (not_loaded : ∀ key, v.loaded? key = none) :
    Faithful ⟨c', visits ++ [v]⟩ where
  held key := by
    have held := h.held key
    simpa [granted, not_granted, Cache.held?, same] using held
  last key := by
    have last := h.last key
    simpa [loads, not_loaded, same] using last
  few key := by
    have few := h.few key
    simpa [loads, not_loaded, Cache.held?, same] using few
  ascending key := by
    have ascending := h.ascending key
    simpa [loads, not_loaded] using ascending
  earlier key loaded mem := by
    have before := h.earlier key loaded (by simpa [loads, not_loaded] using mem)
    exact Nat.lt_of_lt_of_le before longer

section

variable {key other : String} {facets : Facets}

theorem granted_concat (loaded : Loaded) (calls : List Call) :
    granted key (visits ++ [⟨some key, facets, .ok loaded, calls⟩]) =
      granted key visits ++ [facets] := by
  simp [granted, Visit.granted?]

theorem granted_concat_other (h : key ≠ other) (answer : Except LoadError Loaded)
    (calls : List Call) :
    granted other (visits ++ [⟨some key, facets, answer, calls⟩]) = granted other visits := by
  cases answer <;> simp [granted, Visit.granted?, h]

theorem loads_concat (loaded : Loaded) (call : Call) :
    loads key (visits ++ [⟨some key, facets, .ok loaded, [call]⟩]) =
      loads key visits ++ [loaded] := by
  simp [loads, Visit.loaded?]

theorem loads_concat_other (h : key ≠ other) (answer : Except LoadError Loaded)
    (calls : List Call) :
    loads other (visits ++ [⟨some key, facets, answer, calls⟩]) = loads other visits := by
  cases answer <;> simp [loads, Visit.loaded?, h]

theorem loads_concat_nil (answer : Except LoadError Loaded) :
    loads other (visits ++ [⟨some key, facets, answer, []⟩]) = loads other visits := by
  cases answer <;> simp [loads, Visit.loaded?]

/-- A visit that was answered by what is kept. -/
theorem Faithful.kept {entry : Cache.Entry} (h : Faithful ⟨c, visits⟩)
    (found : c.entries.find? key = some entry) (covers : entry.facets.covers facets = true) :
    Faithful ⟨c, visits ++ [⟨some key, facets, .ok entry.loaded, []⟩]⟩ where
  held other := by
    have held := h.held other
    by_cases same : key = other
    · subst same
      rw [Cache.held?_eq_of_find? found] at held
      rw [granted_concat, union?_concat, ← held, Cache.held?_eq_of_find? found]
      exact congrArg some (Facets.covers_iff.mp covers).symm
    · rw [granted_concat_other same]
      exact held
  last other := by
    rw [loads_concat_nil]
    exact h.last other
  few other := by
    rw [loads_concat_nil]
    exact h.few other
  ascending other := by
    rw [loads_concat_nil]
    exact h.ascending other
  earlier other := by
    rw [loads_concat_nil]
    exact h.earlier other

/-- A request that is not covered asks for more facets than are kept. -/
theorem count_lt_wanted (short : ¬ c.Covered key facets) :
    ((c.held? key).map fun held => held.count + 1).getD 0 ≤ (c.wanted key facets).count := by
  cases held : c.held? key with
  | none => exact Nat.zero_le _
  | some facets' =>
    rw [Cache.wanted, held]
    exact Facets.count_lt_of_not_covers fun covers => short ⟨facets', held, covers⟩

/-- A visit that the loader granted. -/
theorem Faithful.loaded (h : Faithful ⟨c, visits⟩) (short : ¬ c.Covered key facets)
    (snapshot : Snapshot) :
    Faithful ⟨c.keeping key facets snapshot, visits ++
      [⟨some key, facets, .ok ⟨c.calls.length, snapshot⟩, [⟨key, c.wanted key facets⟩]⟩]⟩ where
  held other := by
    have held := h.held other
    rw [Cache.held?_keeping]
    by_cases same : key = other
    · subst same
      rw [if_pos rfl, granted_concat, union?_concat, ← held]
      rfl
    · rw [if_neg (Ne.symm same), granted_concat_other same]
      exact held
  last other := by
    have last := h.last other
    rw [Cache.keeping, Table.find?_put]
    by_cases same : key = other
    · subst same
      rw [if_pos rfl, loads_concat, List.getLast?_concat]
      rfl
    · rw [if_neg (Ne.symm same), loads_concat_other same]
      exact last
  few other := by
    have few := h.few other
    rw [Cache.held?_keeping]
    by_cases same : key = other
    · subst same
      have grown := count_lt_wanted short
      rw [if_pos rfl, loads_concat, List.length_append]
      exact Nat.succ_le_succ (Nat.le_trans few grown)
    · rw [if_neg (Ne.symm same), loads_concat_other same]
      exact few
  ascending other := by
    have ascending := h.ascending other
    by_cases same : key = other
    · subst same
      rw [loads_concat, List.map_append, List.pairwise_append]
      refine ⟨ascending, List.pairwise_singleton .., fun serial mem new last => ?_⟩
      obtain ⟨loaded, old, rfl⟩ := List.mem_map.mp mem
      cases List.mem_singleton.mp last
      exact h.earlier key loaded old
    · rw [loads_concat_other same]
      exact ascending
  earlier other loaded mem := by
    have longer : (c.keeping key facets snapshot).calls.length = c.calls.length + 1 := by
      simp [Cache.keeping, Cache.calling]
    rw [longer]
    by_cases same : key = other
    · subst same
      rw [loads_concat, List.mem_append, List.mem_singleton] at mem
      rcases mem with old | rfl
      · exact Nat.lt_succ_of_lt (h.earlier key loaded old)
      · exact Nat.lt_succ_self _
    · rw [loads_concat_other same] at mem
      exact Nat.lt_succ_of_lt (h.earlier other loaded mem)

end

theorem load_of_error {lib : Library} {location : String} {e : LoadError}
    (h : Location.normalize lib.workingDir location = .error e) (facets : Facets) (c : Cache) :
    lib.load location facets c = (.error e, c) := by
  simp only [load, h]

theorem load_of_ok {lib : Library} {location key : String}
    (h : Location.normalize lib.workingDir location = .ok key) (facets : Facets) (c : Cache) :
    lib.load location facets c = c.request lib.loader key facets := by
  simp only [load, h]

theorem faithful_step (lib : Library) {p : Past} (h : Faithful p) (op : Op) :
    Faithful (lib.step p op) := by
  cases op with
  | clear => exact faithful_empty _
  | load location facets =>
    unfold step visit
    dsimp only
    cases normal : Location.normalize lib.workingDir location with
    | error e =>
      rw [load_of_error normal]
      exact h.idle rfl (Nat.le_refl _) (fun _ => rfl) fun _ => rfl
    | ok key =>
      rw [load_of_ok normal]
      have outcome := p.cache.requested lib.loader key facets
      rcases came : p.cache.request lib.loader key facets with ⟨answer, c⟩
      rw [came] at outcome
      cases outcome with
      | kept found covers =>
        rw [List.drop_length]
        exact h.kept found covers
      | failed short refused =>
        have longer : p.cache.calls.length ≤ (p.cache.calling key facets).calls.length := by
          simp [Cache.calling]
        exact h.idle rfl longer (fun _ => rfl) fun _ => rfl
      | loaded short granted =>
        have made : (p.cache.calling key facets).calls.drop p.cache.calls.length =
            [⟨key, p.cache.wanted key facets⟩] := List.drop_left
        dsimp only [Cache.keeping]
        rw [made]
        exact h.loaded short _

theorem faithful_run (lib : Library) (ops : List Op) : Faithful (lib.run ops) := by
  have from_any : ∀ p, Faithful p → Faithful (ops.foldl lib.step p) := by
    induction ops with
    | nil => exact fun _ h => h
    | cons op ops ih => exact fun p h => ih _ (faithful_step lib h op)
  exact from_any _ (faithful_empty [])

/-! ## The next request -/

section

variable {lib : Library} {p : Past} {location key : String} {facets : Facets}

theorem Faithful.covered_iff (h : Faithful p) (key : String) (facets : Facets) :
    p.cache.Covered key facets ↔
      ∃ held, union? (granted key p.visits) = some held ∧ held.union facets = held := by
  simp only [Cache.Covered, h.held, Facets.covers_iff]

theorem Faithful.load_covered (h : Faithful p)
    (normal : Location.normalize lib.workingDir location = .ok key)
    (covered : p.cache.Covered key facets) :
    ∃ loaded, (loads key p.visits).getLast? = some loaded ∧
      lib.load location facets p.cache = (.ok loaded, p.cache) := by
  rw [load_of_ok normal]
  have outcome := p.cache.requested lib.loader key facets
  rcases came : p.cache.request lib.loader key facets with ⟨answer, c⟩
  rw [came] at outcome
  cases outcome with
  | kept found _ =>
    refine ⟨_, ?_, rfl⟩
    rw [← h.last, found]
    rfl
  | failed short _ => exact absurd covered short
  | loaded short _ => exact absurd covered short

theorem load_short (normal : Location.normalize lib.workingDir location = .ok key)
    (short : ¬ p.cache.Covered key facets) :
    (lib.load location facets p.cache).2.calls =
        p.cache.calls ++ [⟨key, p.cache.wanted key facets⟩] ∧
      (lib.load location facets p.cache).1 =
        (lib.loader p.cache.calls.length key (p.cache.wanted key facets)).map
          (Loaded.mk p.cache.calls.length) := by
  rw [load_of_ok normal]
  have outcome := p.cache.requested lib.loader key facets
  rcases came : p.cache.request lib.loader key facets with ⟨answer, c⟩
  rw [came] at outcome
  cases outcome with
  | kept found covers => exact absurd ⟨_, Cache.held?_eq_of_find? found, covers⟩ short
  | failed _ answered => exact ⟨rfl, by rw [answered]; rfl⟩
  | loaded _ answered => exact ⟨rfl, by rw [answered]; rfl⟩

theorem entries_of_failed {e : LoadError}
    (failed : (lib.load location facets p.cache).1 = .error e) :
    (lib.load location facets p.cache).2.entries = p.cache.entries := by
  cases normal : Location.normalize lib.workingDir location with
  | error e' => rw [load_of_error normal]
  | ok key =>
    rw [load_of_ok normal] at failed ⊢
    have outcome := p.cache.requested lib.loader key facets
    rcases came : p.cache.request lib.loader key facets with ⟨answer, c⟩
    rw [came] at outcome failed
    cases outcome with
    | kept found covers => rfl
    | failed short answered => rfl
    | loaded short answered => cases failed

/-- One load for each facet, and one for none. -/
theorem Faithful.length_loads_le (h : Faithful p) (key : String) :
    (loads key p.visits).length ≤ 6 := by
  have few := h.few key
  cases held : p.cache.held? key with
  | none =>
    rw [held] at few
    exact Nat.le_trans few (Nat.zero_le _)
  | some facets =>
    rw [held] at few
    exact Nat.le_trans few (Nat.succ_le_succ facets.count_le)

end

/-- What is kept, loaded and answered, after any requests and clearings. -/
theorem cache_history (lib : Library) (ops : List Op) :
    let p := lib.run ops
    -- each location is kept with what was granted since the cache was cleared
    (∀ key, p.cache.held? key = union? (granted key p.visits)) ∧
    (∀ location key, Location.normalize lib.workingDir location = .ok key →
      lib.keptFacets p.cache location = union? (granted key p.visits)) ∧
    -- a location that has no normal form changes nothing
    (∀ location facets e, Location.normalize lib.workingDir location = .error e →
      lib.load location facets p.cache = (.error e, p.cache)) ∧
    -- a request that is covered is answered by the last load, without a call
    (∀ location facets key held, Location.normalize lib.workingDir location = .ok key →
      union? (granted key p.visits) = some held → held.union facets = held →
      ∃ loaded, (loads key p.visits).getLast? = some loaded ∧
        lib.load location facets p.cache = (.ok loaded, p.cache)) ∧
    -- for any other the loader is called once, and answers
    (∀ location facets key, Location.normalize lib.workingDir location = .ok key →
      (∀ held, union? (granted key p.visits) = some held → held.union facets ≠ held) →
      let wanted := ((union? (granted key p.visits)).getD {}).union facets
      (lib.load location facets p.cache).2.calls = p.cache.calls ++ [⟨key, wanted⟩] ∧
      (lib.load location facets p.cache).1 =
        (lib.loader p.cache.calls.length key wanted).map (Loaded.mk p.cache.calls.length)) ∧
    -- a request that fails leaves what is kept
    (∀ location facets e, (lib.load location facets p.cache).1 = .error e →
      (lib.load location facets p.cache).2.entries = p.cache.entries) ∧
    -- no two loads are one, and there are at most six that succeed
    ∀ key, ((loads key p.visits).map (·.serial)).Pairwise (· < ·) ∧
      (loads key p.visits).length ≤ 6 := by
  intro p
  have faithful : Faithful p := faithful_run lib ops
  refine ⟨faithful.held, ?_, fun _ facets e h => load_of_error h facets _, ?_, ?_,
    fun _ _ _ failed => entries_of_failed failed, ?_⟩
  · intro location key normal
    rw [← faithful.held]
    simp only [keptFacets, normal, Cache.held?]
  · intro location facets key held normal granted covers
    have covered := (faithful.covered_iff key facets).mpr ⟨held, granted, covers⟩
    exact faithful.load_covered normal covered
  · intro location facets key normal not_covers
    have short : ¬ p.cache.Covered key facets := by
      rw [faithful.covered_iff]
      rintro ⟨held, granted, covers⟩
      exact not_covers held granted covers
    rw [← faithful.held]
    exact load_short normal short
  · intro key
    exact ⟨faithful.ascending key, faithful.length_loads_le key⟩

/-- Calls that fail are not bounded: nothing is kept of them, so each request calls again. -/
theorem calls_not_bounded : ¬ ∀ (lib : Library) (ops : List Op) (key : String),
    ((lib.run ops).visits.flatMap (·.calls)).countP (·.location = key) ≤ 6 := by
  intro bounded
  have seven := bounded ⟨fun _ location _ => .error (.notFound location), none, 0⟩
    (List.replicate 7 (.load "missing" { name := true })) "missing"
  revert seven
  decide +kernel

end Library

end Stencil
