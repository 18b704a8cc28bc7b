/-
# The stores of a host

A host is configured with a store in memory or over SQLite. What the rest of the
development needs to know of both is stated once, for either of them.
-/

import Spilman.Storage.Memory
import Spilman.Storage.Sqlite

namespace Spilman

open Lib

/-- The stores a host can be configured with. -/
inductive StorageConfig
  | memory
  | sqlite
  deriving DecidableEq, Repr

namespace StorageConfig

variable {T : Carriers}

def Store (T : Carriers) : StorageConfig → Type
  | memory => MemoryStorage T
  | sqlite => SqliteStorage T

/-- A store that has just been created. -/
def new : (backend : StorageConfig) → backend.Store T
  | memory => MemoryStorage.new
  | sqlite => SqliteStorage.new

variable (L : Cashu T)

def storage : (backend : StorageConfig) → SpilmanStorage T (backend.Store T)
  | memory => memoryStorage T
  | sqlite => sqliteStorage L

def laws : (backend : StorageConfig) → (backend.storage L).Laws
  | memory => memoryLaws T
  | sqlite => sqliteLaws L

theorem wellFormed_new (backend : StorageConfig) :
    (backend.laws L).wellFormed backend.new := by
  cases backend with
  | memory => trivial
  | sqlite => exact SqliteStorage.wellFormed_new

/-- SQLite stores signed integers; memory has no limits. -/
theorem keeps_of_small {backend : StorageConfig} {balance : Nat}
    (small : backend = .sqlite → balance < 2 ^ 63) : (backend.laws L).keeps balance := by
  cases backend with
  | memory => trivial
  | sqlite => exact small rfl

theorem counts_of_small {backend : StorageConfig} {count : Nat}
    (small : backend = .sqlite → count < 2 ^ 63) : (backend.laws L).counts count := by
  cases backend with
  | memory => trivial
  | sqlite => exact small rfl

theorem counts_usage {backend : StorageConfig} {store : backend.Store T}
    (counting : (backend.laws L).counting store) (channelId var : String) :
    (backend.laws L).counts (((backend.storage L).view store channelId).usage var) := by
  cases backend with
  | memory => trivial
  | sqlite => exact SqliteStorage.usage_lt counting channelId var

theorem counting_new (backend : StorageConfig) : (backend.laws L).counting backend.new := by
  cases backend with
  | memory => trivial
  | sqlite => exact SqliteStorage.counting_new

theorem boundless_of_memory {backend : StorageConfig} (inMemory : backend = .memory) :
    (∀ store, (backend.laws L).counting store) ∧ ∀ count, (backend.laws L).counts count := by
  subst inMemory
  exact ⟨fun _ => trivial, fun _ => trivial⟩

theorem view_new (backend : StorageConfig) (channelId : String) :
    (backend.storage L).view backend.new channelId = .unknown := by
  cases backend with
  | memory => rfl
  | sqlite => rfl

end StorageConfig

end Spilman
