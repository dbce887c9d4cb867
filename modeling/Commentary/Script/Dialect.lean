import Commentary.Path

/-! The dialects a script can be written in. -/
namespace Commentary.Script

structure Dialect where
  typescript : Bool := false
  /-- A file of declarations only. -/
  definition : Bool := false
  jsx : Bool := true
deriving Repr, DecidableEq

namespace Dialect

/- The mark of a declaration file may be followed by one more part of the name. -/
def declares (stem : List Char) (extension : String) : Bool :=
  if extension == "ts" then ((Text.cut '.' stem).reverse.take 2).contains ['d']
  else ['d', '.'].isPrefixOf stem.reverse

/-- The dialect a file name asks for. Elements are read in all scripts but typed ones, which
have an extension of their own for them. -/
def ofPath (path : String) : Dialect :=
  match Path.fileName path, Path.extension path with
  | some name, some extension =>
    if extension == "tsx" then { typescript := true }
    else if ["ts", "mts", "cts"].contains extension then
      let stem := (Path.cutExtension name.toList).1
      { typescript := true, definition := declares stem extension, jsx := false }
    else {}
  | _, _ => {}

end Dialect

end Commentary.Script
