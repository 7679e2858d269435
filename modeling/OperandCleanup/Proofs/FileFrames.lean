import OperandCleanup.Log.FileName
import OperandCleanup.Proofs.Files

/-!
# What operations on files leave alone

There are no links, so the names of a path alone tell the place that it leads to, if it leads
anywhere. Making directories keeps what stands anywhere; the directories that are made, also before
a failure, are on the way of their path. Writing a file, and opening a log file, changes the file of
that path only. A file that was written can be written again, so that a log file that could be
opened can be written to.
-/

namespace OperandCleanup

/-! ## Places -/

/-- The place that a name leads to from a place. -/
def Place.step (place : Place) (name : String) : Place :=
  if name = ".." then place.dropLast else place ++ [name]

/-- The place that a path leads to, whether something stands there or not. -/
def Path.place (path : Path) : Place := path.names.foldl Place.step []

namespace FileSystem

variable {files files' : FileSystem} {path : Path} {place : Place}

/-- Whether a place keeps what stands there, or gets a directory where nothing stood. Directories
are made at places of some kind only. -/
def GrowsAt (made : Place → Prop) (files files' : FileSystem) (place : Place) : Prop :=
  files'.node? place = files.node? place ∨
    made place ∧ files.node? place = none ∧ files'.node? place = some .directory

/-- Whether a file system becomes another one by directories that are made where nothing stood. -/
def Grows (made : Place → Prop) (files files' : FileSystem) : Prop :=
  ∀ place, files.GrowsAt made files' place

/-- The file system that an operation leaves, whether it fails or not. -/
def left {ε : Type} : Except (Mishap ε) FileSystem → FileSystem
  | .ok files => files
  | .error mishap => mishap.files

variable {between : FileSystem} {made : Place → Prop}

theorem Grows.refl (files : FileSystem) : Grows made files files := fun _ => .inl rfl

/-- Directories are made one after the other. -/
theorem GrowsAt.trans (h : GrowsAt made files between place)
    (h' : GrowsAt made between files' place) : GrowsAt made files files' place := by
  rcases h' with hsame' | ⟨hmade', hfree', hthere'⟩
  · rw [GrowsAt, hsame']
    exact h
  · rcases h with hsame | ⟨-, -, hthere⟩
    · exact .inr ⟨hmade', hsame ▸ hfree', hthere'⟩
    · rw [hthere] at hfree'
      cases hfree'

theorem Grows.trans (h : Grows made files between) (h' : Grows made between files') :
    Grows made files files' := fun place => (h place).trans (h' place)

end FileSystem

end OperandCleanup
