import PapyrusWriter.Error
import PapyrusWriter.Glob
import PapyrusWriter.Log
import PapyrusWriter.Yaml.Value
/-!
# Why a command fails

Each failure is a cause; its code and its text are in one place.
-/

namespace PapyrusWriter

set_option autoImplicit false

inductive Failure where
  | transpile (error : TranspileError)
  | inputNotFound (path : String)
  | inputUnreadable (cause : SystemError)
  | syntaxErrors (path : String) (count : Nat) (first : String)
  | outputDirectoryMissing (path : String)
  | outputUnwritable (cause : SystemError)
  | projectNotFound
  | manifestUnreadable (cause : SystemError)
  | manifestInvalid (error : Yaml.ReadError)
  | defineNotScalar (name : String)
  | pathNotFound (what path : String)
  | sourcePattern (fault : Glob.Fault)
  | sourceScan (cause : SystemError)
  | noSources
  | compilerUnavailable (cause : SystemError)
  | compilationFailed (failed total : Nat)
  | projectExists
  | directoryNotEmpty
  | initFailed (cause : SystemError)
  | manifestUnwritable (cause : SystemError)

namespace Failure

def code : Failure → String
  | .transpile error => error.code
  | .inputNotFound _ => "CLI_INPUT_NOT_FOUND"
  | .inputUnreadable _ => "CLI_INPUT_READ"
  | .syntaxErrors _ _ _ => "CLI_SYNTAX_ERROR"
  | .outputDirectoryMissing _ => "CLI_OUTPUT_DIR_MISSING"
  | .outputUnwritable _ => "CLI_OUTPUT_WRITE"
  | .projectNotFound => "CLI_PROJECT_NOT_FOUND"
  | .manifestUnreadable _ => "CLI_MANIFEST_READ"
  | .manifestInvalid _ | .defineNotScalar _ => "CLI_MANIFEST_INVALID"
  | .pathNotFound _ _ => "CLI_PATH_NOT_FOUND"
  | .sourcePattern _ => "CLI_SOURCE_PATTERN"
  | .sourceScan _ => "CLI_SOURCE_SCAN"
  | .noSources => "CLI_NO_SOURCES"
  | .compilerUnavailable _ => "CLI_COMPILER_SPAWN"
  | .compilationFailed _ _ => "CLI_COMPILE_FAILED"
  | .projectExists => "CLI_PROJECT_EXISTS"
  | .directoryNotEmpty => "CLI_DIR_NOT_EMPTY"
  | .initFailed _ => "CLI_INIT_IO"
  | .manifestUnwritable _ => "CLI_MANIFEST_WRITE"

def message : Failure → String
  | .transpile error => error.message
  | .inputNotFound path => "no such file " ++ path
  | .syntaxErrors path count first =>
      path ++ ": " ++ toString count ++ " syntax error(s), first: " ++ first
  | .outputDirectoryMissing path => "part of the output path " ++ path ++ " does not exist"
  | .projectNotFound => "no project found, initialize with 'paperscript init'"
  | .manifestInvalid error => error.message
  | .defineNotScalar name => "global define \"" ++ name ++ "\" must be a scalar"
  | .pathNotFound what path => what ++ " does not exist: " ++ path
  | .sourcePattern fault => fault.message
  | .noSources => "no source files found, nothing to do"
  | .compilationFailed failed total =>
      toString failed ++ " of " ++ toString total ++ " script(s) failed to compile"
  | .projectExists => "this directory already contains a project.yaml file"
  | .directoryNotEmpty =>
      "this directory is not empty, if you're sure you want to create a project here, run with '--force'"
  | .inputUnreadable cause | .outputUnwritable cause | .manifestUnreadable cause
  | .sourceScan cause | .compilerUnavailable cause | .initFailed cause
  | .manifestUnwritable cause => cause.message

/-- How a failure is reported. -/
def event (failure : Failure) : Event := .failed failure.code failure.message

end Failure

end PapyrusWriter
