import Commentary.Comment.Header
import Commentary.Config

/-! What can go wrong with a source, and the reports about it. -/
namespace Commentary

inductive Error where
  | io (path details : String)
  | syntaxError (path details : String)
  | unsupported (path name details : String)
  | malformed (cause : Comment.Malformed)
  | config (cause : Config.Error)
deriving Repr, DecidableEq

def Error.message : Error → String
  | .io path details => "failed to read source '" ++ path ++ "': " ++ details
  | .syntaxError path details => "failed to parse source '" ++ path ++ "': " ++ details
  | .unsupported path name details =>
    "unsupported declaration `" ++ name ++ "` in '" ++ path ++ "': " ++ details
  | .malformed cause => cause.message
  | .config cause => cause.message

namespace Diagnostic

inductive Kind where
  | io
  | syntaxError
  | unsupportedDeclaration
  | malformedTagHeader
  | config
deriving Repr, DecidableEq

def Kind.name : Kind → String
  | .io => "io"
  | .syntaxError => "syntax"
  | .unsupportedDeclaration => "unsupported_declaration"
  | .malformedTagHeader => "malformed_tag_header"
  | .config => "config"

def Kind.ofError : Error → Kind
  | .io .. => .io
  | .syntaxError .. => .syntaxError
  | .unsupported .. => .unsupportedDeclaration
  | .malformed .. => .malformedTagHeader
  | .config .. => .config

end Diagnostic

/-- A report about the file at a path. -/
structure Diagnostic where
  path : String
  kind : Diagnostic.Kind
  message : String
deriving Repr, DecidableEq

def Diagnostic.ofError (path : String) (e : Error) : Diagnostic where
  path := path
  kind := .ofError e
  message := e.message

end Commentary
