import ViewGen.Text.Units
import ViewGen.View

/-!
# The manifest

The only thing kept between runs: the fingerprint of the last rendering of every view.
-/

namespace ViewGen

structure ManifestEntry where
  model : Units
  viewType : Units
  hash : Units
deriving DecidableEq, Repr

structure Manifest where
  version : Units
  entries : List ManifestEntry
deriving DecidableEq, Repr

namespace Manifest

def currentVersion : Units := .ofString "1.0.0"

/-- The manifest of an output root that has none. -/
def initial : Manifest := ⟨currentVersion, []⟩

/-- The first entry of a model and a kind of view. -/
def find? (manifest : Manifest) (model viewType : Units) : Option ManifestEntry :=
  manifest.entries.find? fun entry => entry.model == model && entry.viewType == viewType

def fileName : String := ".ramp-manifest.json"

/-- Where the manifest stands in the output root. -/
def path (directory : Path) (file : String) : Path :=
  directory.joinName file

end Manifest

end ViewGen
