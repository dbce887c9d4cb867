import Commentary.Text.Pieces

/-! Paths as texts with slashes. Repeated slashes, trailing slashes and single dots inside a
path mean nothing; a single dot at the start and double dots are kept. -/
namespace Commentary.Path

inductive Component where
  | root
  /-- The single dot a path may start with. -/
  | here
  | up
  | normal (name : String)
deriving Repr, DecidableEq

def segments (text : List Char) : List (List Char) :=
  Text.cut '/' text

def isVoid (segment : List Char) : Bool :=
  segment == [] || segment == ['.']

def ofSegment (segment : List Char) : Component :=
  if segment = ['.', '.'] then .up else .normal (String.ofList segment)

/-- The component a path starts with if it is the root or a single dot, and the segments
behind it. -/
def split (path : String) : Option Component × List (List Char) :=
  match segments path.toList with
  | [] :: next :: more => (some .root, next :: more)
  | ['.'] :: more => (some .here, more)
  | pieces => (none, pieces)

def body (pieces : List (List Char)) : List Component :=
  (pieces.filter fun s => !isVoid s).map ofSegment

def components (path : String) : List Component :=
  (split path).1.toList ++ body (split path).2

/-- Takes components off the front of the segments, or nothing if they differ. -/
def consume : List Component → List (List Char) → Option (List (List Char))
  | [], pieces => some pieces
  | _ :: _, [] => none
  | c :: cs, s :: pieces =>
    if isVoid s then consume (c :: cs) pieces
    else if ofSegment s = c then consume cs pieces
    else none

def trimVoid (pieces : List (List Char)) : List (List Char) :=
  ((pieces.dropWhile isVoid).reverse.dropWhile isVoid).reverse

/-- The segments of a path below a base, as they are written. -/
def below (base path : String) : Option (List (List Char)) :=
  match components base, split path with
  | [], (none, pieces) => some (trimVoid pieces)
  | [], (some _, _) => none
  | c :: cs, (some h, pieces) => if h = c then (consume cs pieces).map trimVoid else none
  | cs, (none, pieces) => (consume cs pieces).map trimVoid

/-- The path below a base. It must start with a name there, so the base itself has none and
neither has what leaves it right away. -/
def relative? (base path : String) : Option String :=
  match below base path with
  | some (s :: more) =>
    if s = ['.', '.'] then none else some (String.ofList (Text.joined '/' (s :: more)))
  | _ => none

def isAbsolute (path : String) : Bool :=
  path.toList.head? == some '/'

/-- The path seen from a root, unless it is absolute. -/
def resolve (root path : String) : String :=
  if isAbsolute path then path
  else if root.isEmpty || root.toList.getLast? == some '/' then root ++ path
  else root ++ "/" ++ path

def fileName (path : String) : Option String :=
  match (components path).getLast? with
  | some (.normal name) => some name
  | _ => none

/-- A file name cut at its last dot. A dot at the very start is part of the name. -/
def cutExtension (name : List Char) : List Char × Option (List Char) :=
  let tail := (name.reverse.takeWhile (· != '.')).reverse
  let stem := name.take (name.length - tail.length - 1)
  if tail.length < name.length && !stem.isEmpty then (stem, some tail) else (name, none)

def fileStem (path : String) : Option String :=
  (fileName path).map fun name => String.ofList (cutExtension name.toList).1

def extension (path : String) : Option String :=
  (fileName path).bind fun name => (cutExtension name.toList).2.map String.ofList

end Commentary.Path
