-- SUMMARY: Why a bootstrap cannot be launched, with descriptions.

/-! # Launch problems

A launch fails before a process exists. An empty command and a path that leads nowhere are found out
beforehand; everything else is refused by the host. -/

namespace FunctionHost.Bootstrap

/-- Why a bootstrap cannot be launched. -/
inductive LaunchProblem where
  | emptyCommand
  | notFound (path : String)
  | refused (reason : String)
  deriving Repr, DecidableEq

namespace LaunchProblem

/-- The description of why a bootstrap cannot be launched. -/
def message : LaunchProblem → String
  | .emptyCommand => "Bootstrap command is empty"
  | .notFound path => "Binary not found: " ++ path
  | .refused reason => "Failed to spawn process: " ++ reason

/-- A text holds the character zero. -/
def zeroByte : LaunchProblem :=
  .refused "nul byte found in provided data"

end LaunchProblem

end FunctionHost.Bootstrap
