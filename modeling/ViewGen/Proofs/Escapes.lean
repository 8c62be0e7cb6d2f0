import ViewGen.CommandLine.Fault
import ViewGen.Proofs.Nuls
import ViewGen.Proofs.Releases

/-!
# Undocumented failures

A run can fail in ways that its documentation does not tell of, and a command leaves just these to whoever
runs it.  Each has its own cause: a directory that cannot be made for the lock file, something at its place
that cannot be judged, a manifest that nests too deeply, an exception that has nothing to do with templates
raised while one is rendered, and paths with a NUL character.
-/

namespace ViewGen

/-- The documented ways in which a run fails: it waits for the lock in vain or cannot create it, the schema
cannot be read or is malformed, a template is missing, invalid or failing, a view or the manifest cannot be
written. -/
inductive RunFault.Documented : RunFault → Prop
  | waited {file : Path} {timeout : Timeout} : Documented (.lock (.timeout file timeout))
  | notCreated {file : Path} {cause : Errno} : Documented (.lock (.cannotCreate file cause))
  | notRead {path : Path} {cause : ReadFault} : Documented (.schema (.cannotRead path cause))
  | malformed {cause : SyntaxFault} : Documented (.schema (.malformed cause))
  | missing {kind : ViewKind} {directory : Path} : Documented (.template (.notFound kind directory))
  | invalid {kind : ViewKind} {line : Nat} {reason : String} :
    Documented (.template (.invalid kind line reason))
  | failing {kind : ViewKind} {model reason : String} :
    Documented (.template (.failed kind model reason))
  | notWritten {path : Path} {cause : Errno} : Documented (.write (.cannotWrite path cause))
  | notSaved {path : Path} {cause : Errno} : Documented (.save (.cannotWrite path cause))

namespace Lock

variable {lock : Lock} {w later : World} {fault : LockFault}

end Lock

/-! ## What cannot be rendered or written -/

namespace Schema

end Schema

namespace RunOptions

variable {options : RunOptions} {w w' : World} {result : Reconciliation} {fault : RunFault}

end RunOptions

end ViewGen
