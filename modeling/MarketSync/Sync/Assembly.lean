import MarketSync.Sync.Provision

/-!
# Assembling a run

A run is put together from its parts in any order (`ProvisionerBuilder`). It needs a store, a
registry and a factory; the page size and the mode have defaults.
-/

namespace MarketSync

inductive AssemblyError where
  | noStore
  | noRegistry
  | noFactory
  deriving DecidableEq, Repr

def AssemblyError.message : AssemblyError → String
  | .noStore => "Provisioner needs a config store"
  | .noRegistry => "Provisioner needs a market registry"
  | .noFactory => "Provisioner needs a market factory"

structure Provisioner (σ : Type) where
  backend : Backend σ
  options : RunOptions

/-- Performs the run for a configuration. -/
def Provisioner.run {σ : Type} (p : Provisioner σ) (c : Config) (s : σ) :
    Except ProvisionError Report × σ :=
  provision p.backend p.options c s

/-- The parts of a run put together so far. -/
structure Assembly (σ : Type) where
  store : Option (Store σ) := none
  registry : Option (Registry σ) := none
  factory : Option (Factory σ) := none
  options : RunOptions := {}

namespace Assembly

variable {σ : Type}

def empty : Assembly σ := {}

def withStore (a : Assembly σ) (store : Store σ) : Assembly σ :=
  { a with store := some store }

def withRegistry (a : Assembly σ) (registry : Registry σ) : Assembly σ :=
  { a with registry := some registry }

def withFactory (a : Assembly σ) (factory : Factory σ) : Assembly σ :=
  { a with factory := some factory }

/-- Takes store, registry and factory from one backend. -/
def withBackend (a : Assembly σ) (b : Backend σ) : Assembly σ :=
  ((a.withStore b.store).withRegistry b.registry).withFactory b.factory

def withPageSize (a : Assembly σ) (pageSize : UInt64) : Assembly σ :=
  { a with options.pageSize := pageSize }

def withMode (a : Assembly σ) (mode : WriteMode) : Assembly σ :=
  { a with options.mode := mode }

/-- The run, if all parts are there. The store is missed first, the factory last. -/
def build (a : Assembly σ) : Except AssemblyError (Provisioner σ) :=
  match a.store, a.registry, a.factory with
  | none, _, _ => .error .noStore
  | some _, none, _ => .error .noRegistry
  | some _, some _, none => .error .noFactory
  | some store, some registry, some factory => .ok ⟨⟨store, registry, factory⟩, a.options⟩

end Assembly

end MarketSync
