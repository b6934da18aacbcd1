/-!
# Refusals of the disk

Reading or changing files may be refused. The refusals that the library can run into by itself are
named here with their system number; anything else a system may answer is kept as it was given.
-/

namespace VoiceGrammar

/-- Why the disk refused a request. -/
inductive Refusal where
  | notFound
  | notPermitted
  | alreadyExists
  | notDirectory
  | isDirectory
  | nameTooLong
  /-- The bytes of a file are not UTF-8 text. -/
  | notText
  /-- The path holds a null character, so it cannot be asked for. -/
  | nullInPath
  /-- Any other refusal, with its number and its reason. -/
  | other (number : Nat) (reason : String)
  deriving DecidableEq, Repr

namespace Refusal

/-- The system's number for a refusal; bad text and paths that cannot be asked for are found
without the system. -/
def number? : Refusal → Option Nat
  | .notFound => some 2
  | .notPermitted => some 13
  | .alreadyExists => some 17
  | .notDirectory => some 20
  | .isDirectory => some 21
  | .nameTooLong => some 36
  | .notText | .nullInPath => none
  | .other number _ => some number

/-- The reason without its number. -/
def reason : Refusal → String
  | .notFound => "No such file or directory"
  | .notPermitted => "Permission denied"
  | .alreadyExists => "File exists"
  | .notDirectory => "Not a directory"
  | .isDirectory => "Is a directory"
  | .nameTooLong => "File name too long"
  | .notText => "stream did not contain valid UTF-8"
  | .nullInPath => "file name contained an unexpected NUL byte"
  | .other _ reason => reason

def message (refusal : Refusal) : String :=
  match refusal.number? with
  | some number => refusal.reason ++ " (os error " ++ toString number ++ ")"
  | none => refusal.reason

end Refusal

end VoiceGrammar
