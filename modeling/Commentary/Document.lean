import Commentary.Catalog
import Commentary.Locale
import Commentary.Page

/-! Documents and the shelf they are kept on. -/
namespace Commentary

/-- The page of a module with the files it was made from. -/
structure Document where
  id : String
  module : String
  content : String
  mediaType : String
  fingerprint : String
  sources : List String
deriving Repr, DecidableEq

namespace Document

def idOf (module : String) : String :=
  "doc:" ++ module

def ofPage (module : String) (page : Page) (sources : List String) : Document where
  id := idOf module
  module := module
  content := page.content
  mediaType := "text/markdown"
  fingerprint := page.fingerprint
  sources := sources

end Document

/-- Documents by id. A shelf may bring its own words, and counts what is done to it. -/
structure Shelf where
  documents : Catalog Document := {}
  locale : Option Locale := none
  writes : Nat := 0
  deletes : Nat := 0

namespace Shelf

def document? (s : Shelf) (module : String) : Option Document :=
  s.documents.get? (Document.idOf module)

/-- Puts a document in the place of any other with its id. -/
def write (s : Shelf) (d : Document) : Shelf :=
  { s with documents := s.documents.insert d.id d, writes := s.writes + 1 }

def delete (s : Shelf) (id : String) : Shelf :=
  if s.documents.contains id then
    { s with documents := s.documents.erase id, deletes := s.deletes + 1 }
  else s

def size (s : Shelf) : Nat :=
  s.documents.entries.length

end Shelf

end Commentary
