import ProgramFacts.Encoder
import ProgramFacts.FactFiles
import ProgramFacts.Program.Load
import ProgramFacts.Settings.Basic

/-!
# From program files to fact files

Loads a program, encodes it, and writes its facts.  The directory of the fact files is created
before the encoding starts; the files are written only if the encoding succeeds.
-/

namespace ProgramFacts

/-- The facts of a program. -/
def encodeProgram (settings : Settings) (p : Program) : Except EncodeError FactStore :=
  let done := (Encoder.fresh settings.encoder false).generate p
  done.result.map fun _ => done.encoder.store

/-- Why no fact files were written, by the stage that failed. -/
inductive PipelineError where
  | load (error : LoadError)
  | prepare (error : EncodeError)
  | encode (error : EncodeError)
  | write (error : EncodeError)
  deriving DecidableEq, Repr

/-- Encodes a program and writes its facts to a directory. -/
def writeFacts (settings : Settings) (p : Program) (directory : String) (t : FileTree) :
    FileTree × Except PipelineError (Statistics × FactFiles.Summary) :=
  let files : FactFiles := ⟨directory, settings.output.separator⟩
  match files.prepare t with
  | .error e => (t, .error (.prepare e))
  | .ok t =>
    let done := (Encoder.fresh settings.encoder false).generate p
    match done.result with
    -- the directory stays, but none of its files is touched
    | .error e => (t, .error (.encode e))
    | .ok statistics =>
      let (t, written) := files.flush done.encoder.store t
      (t, match written with
        | .error e => .error (.write e)
        | .ok summary => .ok (statistics, summary))

/-- Encodes the program of a file and writes its facts to a directory. -/
def generateFactFiles (settings : Settings) (programPath directory : String) (t : FileTree) :
    FileTree × Except PipelineError (Statistics × FactFiles.Summary) :=
  match Program.loadFile t programPath with
  | .error e => (t, .error (.load e))
  | .ok p => writeFacts settings p directory t

end ProgramFacts
