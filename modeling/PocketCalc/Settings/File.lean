import PocketCalc.Settings.Document

/-!
# The settings file

What reading the settings file gives, whatever stands at its path. The bytes of a file must be a
text before they can be a document.
-/

namespace PocketCalc.Settings

/-- **What stands at the path of a file.** -/
inductive File where
  | missing
  | directory
  | bytes (content : ByteArray)

/-- **Why a file could not be read.** -/
inductive FileError where
  | notFound
  | isDirectory
  | notText
  deriving DecidableEq, Repr

def FileError.reason : FileError → String
  | notFound => "No such file or directory (os error 2)"
  | isDirectory => "Is a directory (os error 21)"
  | notText => "stream did not contain valid UTF-8"

/-- **Why no settings could be loaded.** -/
inductive LoadError where
  | file (e : FileError)
  | document (e : ReadError)
  deriving DecidableEq, Repr

def File.text : File → Except FileError (List Char)
  | missing => .error .notFound
  | directory => .error .isDirectory
  | bytes content =>
    match String.fromUTF8? content with
    | none => .error .notText
    | some s => .ok s.toList

/-- **The settings in a file.** -/
def load (f : File) : Except LoadError Settings :=
  match f.text with
  | .error e => .error (.file e)
  | .ok text => (read text).mapError .document

def Fault.report (f : Fault) : String := "validation error: " ++ f.message

/-- A file that could not be read, as the user reads it. -/
def FileError.report (e : FileError) : String := "failed to read config file: " ++ e.reason

end PocketCalc.Settings
