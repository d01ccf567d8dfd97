import VersionedApi.Files.Tree

/-!
# Failures

Why a generation ends without success, and the wording of each reason.
-/

namespace VersionedApi.Generation

open VersionedApi.Files

inductive Input where
  | reporter
  | model
  | outputDirectory
  | namesCalculator
  | bindingCalculator
  | packagesCalculator
  | package
  deriving Repr, DecidableEq

namespace Input

def label : Input → String
  | reporter => "reporter"
  | model => "model"
  | outputDirectory => "output directory"
  | namesCalculator => "names calculator"
  | bindingCalculator => "binding calculator"
  | packagesCalculator => "packages calculator"
  | package => "package"

def missingMessage (input : Input) : String :=
  input.label ++ " is mandatory"

end Input

inductive Failure where
  | missing (input : Input)
  | write (path : String) (cause : FileError)
  | problems (count : Nat)
  deriving Repr, DecidableEq

def Failure.message : Failure → String
  | missing input => input.missingMessage
  | write path cause => "failed to write " ++ path ++ ": " ++ cause.message
  | problems 1 => "there was 1 error"
  | problems count => "there were " ++ toString count ++ " errors"

end VersionedApi.Generation
