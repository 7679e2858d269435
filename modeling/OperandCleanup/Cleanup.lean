import OperandCleanup.Config
import OperandCleanup.Pipeline
import OperandCleanup.Registry.Default

/-!
# Cleaning up a document

A cleanup runs the entries of a registry that a configuration selects. Without a registry, or with
one that has no entries, it runs those of the default registry.
-/

namespace OperandCleanup

/-- A registered transform as a stage under its registered name. -/
def Entry.stage (entry : Entry) : Stage := ⟨entry.name, entry.transform⟩

/-- A pass as a stage under its own name. -/
def Pass.stage (pass : Pass) : Stage := ⟨pass.name, pass.transform⟩

/-- Whether a configuration selects the entry of a name. -/
def Config.selects (config : Config) (name : String) : Bool :=
  (config.only.isEmpty || config.only.contains name) && !config.skip.contains name

/-- The passes of the library that a configuration selects, in their order. -/
def Pass.selected (config : Config) : List Pass :=
  Pass.standard.filter fun pass => config.selects pass.name

/-- The registry that a cleanup uses when it is given this one, or none. -/
def Registry.orDefault : Option Registry → Registry
  | none => .default
  | some registry => if registry.entries.isEmpty then .default else registry

/-- Run the selected transforms on a document. -/
def cleanup (document : Document) (config : Config := {}) (registry : Option Registry := none) :
    Except RegistryError Run := do
  let selected ← (Registry.orDefault registry).select config.only config.skip
  return Pipeline.run config.failFast (selected.map (·.stage)) document

end OperandCleanup
