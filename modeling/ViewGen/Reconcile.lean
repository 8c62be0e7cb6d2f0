import ViewGen.Digest.Sha256
import ViewGen.Manifest.Basic
import ViewGen.Schema.Basic
import ViewGen.World

/-!
# Reconciliation

Every view is rendered and its fingerprint compared with the one that the previous manifest holds.
All views are rendered before any is written, and only those whose fingerprint is new or different
are. The next manifest covers exactly the models at hand.
-/

namespace ViewGen

inductive Decision where
  | changed
  | unchanged
deriving DecidableEq, Repr

def Decision.name : Decision → String
  | .changed => "changed"
  | .unchanged => "unchanged"

/-- A rendered view. Its path is seen from the output root. -/
structure RenderedView where
  model : String
  kind : ViewKind
  path : Path
  content : String
  hash : String
  decision : Decision
deriving DecidableEq, Repr

/-- The digest of a text in UTF-8. -/
def fingerprint (content : String) : String :=
  Sha256.hexDigest content.toUTF8.toList

namespace RenderedView

/-- What the previous manifest says about a view with that fingerprint. -/
def decide (previous : Manifest) (model : String) (kind : ViewKind) (hash : String) : Decision :=
  match previous.find? (.ofString model) (.ofString kind.name) with
  | some entry => if entry.hash = .ofString hash then .unchanged else .changed
  | none => .changed

def ofContent (previous : Manifest) (extension model : String) (kind : ViewKind)
    (content : String) : RenderedView :=
  let hash := fingerprint content
  { model, kind, content, hash
    path := viewPath model kind extension
    decision := decide previous model kind hash }

def entry (view : RenderedView) : ManifestEntry :=
  ⟨.ofString view.model, .ofString view.kind.name, .ofString view.hash⟩

def isChanged (view : RenderedView) : Bool :=
  view.decision == .changed

/-- The line that the log holds about a view. -/
def note (view : RenderedView) : String :=
  "View " ++ view.model ++ view.kind.name ++ " " ++
    match view.decision with
    | .changed => "updated"
    | .unchanged => "unchanged"

end RenderedView

/-- How the content of a view comes about. -/
abbrev Renderer (ε : Type) := ViewKind → Model → Except ε String

/-- How the contents of views come about one after the other: each rendering can end in its own way. -/
abbrev Renderings (ε : Type) := Nat → Renderer ε

/-- The outcome of comparing renderings with a manifest, and the paths written since. -/
structure Reconciliation where
  views : List RenderedView
  manifest : Manifest
  written : List Path
deriving DecidableEq, Repr

/-- The views that are generated for models, in order. -/
def viewsOf (models : List Model) : List (Model × ViewKind) :=
  models.flatMap fun model => ViewKind.all.map fun kind => (model, kind)

/-- Renders views in order, from the rendering of a number on and up to the first that fails. -/
def renderViews {ε : Type} (previous : Manifest) (render : Renderings ε) (extension : String)
    (number : Nat) : List (Model × ViewKind) → List RenderedView × Except ε Unit
  | [] => ([], .ok ())
  | (model, kind) :: rest =>
    match render number kind model with
    | .error fault => ([], .error fault)
    | .ok content =>
      let (views, result) := renderViews previous render extension (number + 1) rest
      (.ofContent previous extension model.name kind content :: views, result)

namespace Reconciliation

/-- The next manifest keeps the version of the previous one. -/
def ofViews (previous : Manifest) (views : List RenderedView) : Reconciliation :=
  { views, manifest := ⟨previous.version, views.map (·.entry)⟩, written := [] }

def changed (result : Reconciliation) : List RenderedView :=
  result.views.filter (·.isChanged)

def unchanged (result : Reconciliation) : List RenderedView :=
  result.views.filter fun view => !view.isChanged

end Reconciliation

/-- Compares the renderings of all views of the models with the previous manifest. -/
def reconcileAll {ε : Type} (models : List Model) (previous : Manifest) (render : Renderings ε)
    (extension : String) : Except ε Reconciliation :=
  match renderViews previous render extension 0 (viewsOf models) with
  | (_, .error fault) => .error fault
  | (views, .ok ()) => .ok (.ofViews previous views)

/-- Compares them where every rendering ends as any other of the same view does. -/
def reconcile {ε : Type} (models : List Model) (previous : Manifest) (render : Renderer ε)
    (extension : String) : Except ε Reconciliation :=
  reconcileAll models previous (fun _ => render) extension

/-- Why a view cannot be written. -/
inductive WriteFault where
  | cannotWrite (path : Path) (cause : Errno)
  | embeddedNul
deriving DecidableEq, Repr

def WriteFault.message : WriteFault → String
  | .cannotWrite path cause => "Cannot write " ++ path.render ++ ": " ++ cause.message
  | .embeddedNul => DiskFault.embeddedNul.message

def WriteFault.of (path : Path) : DiskFault → WriteFault
  | .system cause => .cannotWrite path cause
  | .embeddedNul => .embeddedNul

/-- Writes a file and makes the directories missing above it. -/
def Disk.placeFile (disk : Disk) (current : Location) (now : Moment) (path : Path)
    (content : ByteArray) : Disk × Except DiskFault Unit :=
  match disk.ensureDirectories current now path.parent with
  | (disk, .error fault) => (disk, .error fault)
  | (disk, .ok ()) =>
    match disk.writeFile current now path content with
    | .error fault => (disk, .error fault)
    | .ok disk => (disk, .ok ())

/-- Writes views below the output root in order, up to the first that fails, and gives those that
were written. -/
def writeAll (current : Location) (now : Moment) (output : Path) :
    List RenderedView → Disk → Disk × List RenderedView × Except WriteFault Unit
  | [], disk => (disk, [], .ok ())
  | view :: rest, disk =>
    let path := output.join view.path
    match disk.placeFile current now path view.content.toUTF8 with
    | (disk, .error fault) => (disk, [], .error (.of path fault))
    | (disk, .ok ()) =>
      let (disk, written, result) := writeAll current now output rest disk
      (disk, view :: written, result)

/-- Writes the changed views. The result lists the paths written, be it before a fault, after those
of earlier calls. -/
def writeViews {ε : Type} (result : Reconciliation) (output : Path) :
    Job ε (Reconciliation × Except WriteFault (List Path)) := do
  let world ← get
  let (disk, written, ended) := writeAll world.current world.now output result.changed world.disk
  set { world with disk }
  let result := { result with written := result.written ++ written.map (·.path) }
  match ended with
  | .error fault => pure (result, .error fault)
  | .ok () =>
    Job.note .debug ("Wrote " ++ toString written.length ++ " views under " ++ output.render)
    pure (result, .ok (written.map fun view => output.join view.path))

/-- Reconciles as a job, which notes every decision. -/
def reconcileNoting {ε : Type} (models : List Model) (previous : Manifest)
    (render : Renderings ε) (extension : String) : Job ε Reconciliation := do
  let (views, result) := renderViews previous render extension 0 (viewsOf models)
  views.forM fun view => Job.note .info view.note
  Job.ofExcept result
  pure (.ofViews previous views)

/-- Why views cannot be generated. -/
inductive GenerateFault (ε : Type) where
  | render (fault : ε)
  | write (fault : WriteFault)
deriving DecidableEq, Repr

/-- Reconciles and writes the changed views. A dry run decides but does not write. -/
def generateViews {ε : Type} (models : List Model) (output : Path) (render : Renderings ε)
    (previous : Manifest) (extension : String) (dryRun : Bool) :
    Job (GenerateFault ε) Reconciliation := do
  let result ← (reconcileNoting models previous render extension).withFault .render
  if dryRun then pure result
  else
    match ← writeViews result output with
    | (result, .ok _) => pure result
    | (_, .error fault) => throw (.write fault)

end ViewGen
