import Commentary.Diagnostic

/-! Reading a source from a directory. -/
namespace Commentary

/-- What stands at a path. -/
inductive DirectoryEntry where
  | missing
  | directory
  | file (bytes : ByteArray)

namespace DirectoryEntry

/-- Why there is no text at a path. -/
inductive Unreadable where
  | missing
  | directory
  | notText
deriving Repr, DecidableEq

def Unreadable.message : Unreadable → String
  | .missing => "No such file or directory (os error 2)"
  | .directory => "Is a directory (os error 21)"
  | .notText => "stream did not contain valid UTF-8"

def content : DirectoryEntry → Except Unreadable String
  | .missing => .error .missing
  | .directory => .error .directory
  | .file bytes =>
    match String.fromUTF8? bytes with
    | some text => .ok text
    | none => .error .notText

/-- The text of the source at a path. -/
def load (path : String) (entry : DirectoryEntry) : Except Error String :=
  entry.content.mapError fun cause => .io path cause.message

end DirectoryEntry

end Commentary
