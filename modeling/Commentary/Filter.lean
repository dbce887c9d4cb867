import Commentary.Config

/-! Which files are sources, and the module a source belongs to: the first component of its
path below the source directory. -/
namespace Commentary

structure Filter where
  sourceDir : String
  patterns : List Glob
deriving Repr

namespace Filter

def ofConfig (c : Config) : Except Config.Error Filter :=
  (Config.compile c.patterns.toList).map fun patterns => ⟨c.sourceDir, patterns⟩

def extensions : List String := ["js", "jsx", "ts", "tsx"]

def hasSourceExtension (path : String) : Bool :=
  match Path.extension path with
  | some e => extensions.contains e
  | none => false

/-- Whether a path below the source directory is one of a source. -/
def qualifies (f : Filter) (relative : String) : Bool :=
  hasSourceExtension relative &&
    (f.patterns.isEmpty || f.patterns.any fun p => p.matches relative)

def relative? (f : Filter) (path : String) : Option String :=
  Path.relative? f.sourceDir path

def module? (f : Filter) (path : String) : Option String :=
  (f.relative? path).bind fun relative =>
    match (Path.components relative).head? with
    | some (.normal name) => some name
    | _ => none

end Filter

end Commentary
