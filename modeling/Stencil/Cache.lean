import Stencil.Loader

/-
  Loaded modules kept by normalized location. A kept module answers a request that its facets
  cover; otherwise it is loaded again with all facets ever asked for, and takes the place of
  the old one only if that succeeds.
-/

namespace Stencil

/-- A snapshot with the number of the loader call that made it, which tells it from every
other snapshot of the same cache. -/
structure Loaded where
  serial : Nat
  snapshot : Snapshot

structure Call where
  location : String
  facets : Facets
  deriving DecidableEq, Repr

/-- A kept module, and the facets it was asked for with. -/
structure Cache.Entry where
  facets : Facets
  loaded : Loaded

structure Cache where
  entries : Table Cache.Entry := .empty
  /-- Every call of the loader so far, failed ones too, the earliest first. -/
  calls : List Call := []

namespace Cache

def clear (c : Cache) : Cache := { c with entries := .empty }

/-- Calls the loader, and keeps what it answers. -/
def fetch (c : Cache) (loader : Loader) (key : String) (wanted : Facets) :
    Except LoadError Loaded × Cache :=
  let serial := c.calls.length
  let c := { c with calls := c.calls ++ [⟨key, wanted⟩] }
  match loader serial key wanted with
  | .error e => (.error e, c)
  | .ok snapshot =>
    let loaded := ⟨serial, snapshot⟩
    (.ok loaded, { c with entries := c.entries.put key ⟨wanted, loaded⟩ })

/-- The module at a normalized location with at least some facets. -/
def request (c : Cache) (loader : Loader) (key : String) (facets : Facets) :
    Except LoadError Loaded × Cache :=
  match c.entries.find? key with
  | none => c.fetch loader key facets
  | some entry =>
    if entry.facets.covers facets then (.ok entry.loaded, c)
    else c.fetch loader key (entry.facets.union facets)

end Cache

end Stencil
