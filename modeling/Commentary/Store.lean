import Commentary.Catalog
import Commentary.Record

/-! The records of all files, gathered by module. Every file contributes to one module at most,
and every module has at least one file. Modules that change are marked until they are taken. -/
namespace Commentary

/-- The files of a module with their records. -/
abbrev Bucket := Catalog (List Record)

namespace Bucket

def fileIds (b : Bucket) : List String :=
  b.keys

/-- All records, file by file. -/
def records (b : Bucket) : List Record :=
  b.values.flatten

/-- The number of records. -/
def size (b : Bucket) : Nat :=
  b.values.foldr (fun records n => records.length + n) 0

def isBlank (b : Bucket) : Bool :=
  b.size == 0

end Bucket

structure Store where
  modules : Catalog Bucket := {}
  /-- The module each file contributes to. -/
  owners : Catalog String := {}
  dirty : Catalog Unit := {}

namespace Store

def bucket? (s : Store) (module : String) : Option Bucket :=
  s.modules.get? module

def moduleOf (s : Store) (id : String) : Option String :=
  s.owners.get? id

def moduleNames (s : Store) : List String :=
  s.modules.keys

def isEmpty (s : Store) : Bool :=
  s.modules.isEmpty

def mark (s : Store) (module : String) : Store :=
  { s with dirty := s.dirty.insert module () }

/-- The modules without a file. A module that loses its last file goes with it. -/
def without (modules : Catalog Bucket) (id module : String) : Catalog Bucket :=
  match modules.get? module with
  | some bucket =>
    let rest := bucket.erase id
    if rest.isEmpty then modules.erase module else modules.insert module rest
  | none => modules

/-- Takes a file out of a module. -/
def detach (s : Store) (id module : String) : Store :=
  { s with owners := s.owners.erase id, modules := without s.modules id module }.mark module

/-- Takes out all that a file contributes. -/
def remove (s : Store) (id : String) : Store :=
  match s.moduleOf id with
  | some module => s.detach id module
  | none => s

/-- Makes room for a file in a module: it leaves any other one. -/
def release (s : Store) (id module : String) : Store :=
  match s.moduleOf id with
  | some previous => if previous = module then s else s.detach id previous
  | none => s

def attach (s : Store) (id module : String) (records : List Record) : Store :=
  { s with
    modules := s.modules.insert module (((s.bucket? module).getD {}).insert id records)
    owners := s.owners.insert id module }.mark module

/-- Replaces all that a file contributes. Without records it contributes nothing. -/
def upsert (s : Store) (id module : String) (records : List Record) : Store :=
  if records.isEmpty then s.remove id
  else (s.release id module).attach id module records

/-- The marked modules in ascending order, and the store without the marks. -/
def takeDirty (s : Store) : List String × Store :=
  (s.dirty.keys, { s with dirty := {} })

end Store

end Commentary
