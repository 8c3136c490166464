/-!
What can go wrong around a run of the linter, as causes, and the words for each.
-/

set_option autoImplicit false
set_option relaxedAutoImplicit false

namespace LintBridge

/-- Why the operating system refuses a file or a program. -/
inductive SystemError
  | notFound
  | denied
  | notDirectory
  | isDirectory
  | nameTooLong
  | badFormat
  | argumentTooLong
  | nulInName
  | nulInArgument
  | notText
  deriving DecidableEq, Repr

def SystemError.message : SystemError → String
  | notFound => "No such file or directory (os error 2)"
  | denied => "Permission denied (os error 13)"
  | notDirectory => "Not a directory (os error 20)"
  | isDirectory => "Is a directory (os error 21)"
  | nameTooLong => "File name too long (os error 36)"
  | badFormat => "Exec format error (os error 8)"
  | argumentTooLong => "Argument list too long (os error 7)"
  | nulInName => "file name contained an unexpected NUL byte"
  | nulInArgument => "nul byte found in provided data"
  | notText => "stream did not contain valid UTF-8"

/-- A failure of the linter. A run that times out or that a newer one replaces is not a failure: it has no
result. -/
inductive Problem
  /-- The configuration cannot be used. -/
  | config (reason : String)
  /-- The tool cannot be started. -/
  | spawn (program : String) (reason : String)
  /-- The tool's output is no report; the text is the tool's own, or says what is wrong with the report. -/
  | parse (reason : String)
  /-- The report does not say which version wrote it. -/
  | missingVersion
  /-- The tool was started, but its output cannot be collected. -/
  | io (reason : String)
  deriving DecidableEq, Repr

def Problem.message : Problem → String
  | config reason => "Configuration error: " ++ reason
  | spawn program reason => "Failed to spawn `" ++ program ++ "`: " ++ reason
  | parse reason => reason
  | missingVersion => "Unable to get rubocop version from linting output results."
  | io reason => "I/O error: " ++ reason

def Problem.noCommand : Problem := .config "no rubocop command configured"

end LintBridge
