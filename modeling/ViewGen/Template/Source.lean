import ViewGen.Template.Bundled
import ViewGen.Template.Render
import ViewGen.View
import ViewGen.World

/-!
# Template sources

Every kind of view has one template, which is bundled or stands in a directory of templates. It is
looked up anew for every rendering, so a run without models reads none.
-/

namespace ViewGen

inductive TemplateSource where
  | bundled
  | directory (path : Path)
deriving DecidableEq, Repr

/-- Why a view cannot be rendered. -/
inductive TemplateFault where
  | notFound (kind : ViewKind) (directory : Path)
  | invalid (kind : ViewKind) (line : Nat) (reason : String)
  | failed (kind : ViewKind) (model reason : String)
  /-- An exception that is not one of templates is handed on as it is. -/
  | raised (exception : Raised)
deriving DecidableEq, Repr

namespace Template

/-- The exception that a fault in rendering is raised as. -/
def RenderFault.raised : RenderFault → Raised
  | .undefined cause => ⟨.template, "UndefinedError", cause.message⟩
  | .unknownFilter name =>
    ⟨.template, "TemplateRuntimeError", "No filter named '" ++ name ++ "' found."⟩
  | .badValue cause => ⟨.other, cause.exception, cause.message⟩

/-- The exception that is raised for a text which is no template from some line on. -/
def raisedAt (line : Nat) : Raised :=
  let reason := "it is no template"
  ⟨.malformedTemplate line reason, "TemplateSyntaxError", reason⟩

/-- Loads a text as a template. -/
def load (text : String) : Except Raised LoadedTemplate :=
  match parse text with
  | .error line => .error (raisedAt line)
  | .ok template => .ok fun model => (template.render model).mapError (·.raised)

end Template

namespace TemplateFault

def message : TemplateFault → String
  | .notFound kind directory =>
    "Template " ++ kind.templateName ++ " not found in " ++ directory.render
  | .invalid kind line reason =>
    "Template " ++ kind.templateName ++ " is invalid (line " ++ toString line ++ "): " ++ reason
  | .failed kind model reason =>
    "Template " ++ kind.templateName ++ " failed for model " ++ model ++ ": " ++ reason
  | .raised exception => exception.message

/-- The fault of a template that cannot be loaded. -/
def ofLoading (kind : ViewKind) (directory : Path) (exception : Raised) : TemplateFault :=
  match exception.family with
  | .templateNotFound => .notFound kind directory
  | .malformedTemplate line reason => .invalid kind line reason
  | .template => .raised exception
  | .other => .raised exception

/-- The fault of a template that cannot show a model. -/
def ofRendering (kind : ViewKind) (model : String) (exception : Raised) : TemplateFault :=
  match exception.family with
  | .other => .raised exception
  | _ => .failed kind model exception.message

end TemplateFault

namespace TemplateSource

/-- The text of the bundled template of a kind. -/
def bundledText : ViewKind → String
  | .list => Template.Bundled.list
  | .create => Template.Bundled.create
  | .update => Template.Bundled.update
  | .delete => Template.Bundled.delete
  | .search => Template.Bundled.search

/-- The directory of the bundled templates in that of the program. -/
def bundledDirectory : Path := .parse "templates"

def place : TemplateSource → Path
  | .bundled => bundledDirectory
  | .directory path => path

/-- Loads the template of a kind. What the bundled ones hold is known; what a directory holds is for the
engine to load, and to load anew for every rendering. -/
def load (source : TemplateSource) (engine : TemplateEngine) (disk : Disk) (current : Location)
    (number : Nat) (kind : ViewKind) : Except Raised LoadedTemplate :=
  match source with
  | .bundled => Template.load (bundledText kind)
  | .directory path => engine disk current number path kind.templateName

/-- The text of a view. -/
def render (source : TemplateSource) (engine : TemplateEngine) (disk : Disk) (current : Location)
    (number : Nat) (kind : ViewKind) (model : Model) : Except TemplateFault String :=
  match source.load engine disk current number kind with
  | .error exception => .error (.ofLoading kind source.place exception)
  | .ok template => (template model).mapError (.ofRendering kind model.name)

end TemplateSource

end ViewGen
