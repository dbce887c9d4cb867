import Commentary.Proofs.Offsets
import Commentary.Record.Merge

/-! Reading comments by byte offsets. This reader finds its way by offsets, indices and counters, as
a program does that takes its texts apart in place, and stops with a fault wherever one of them does
not fit. What needs no offset is taken from the reader by characters. -/
namespace Commentary.Comment.Guarded

open Text

/-- The offset of the bracket that brings the counter of open brackets back to zero. -/
def scanClose (opening closing : Char) (depth : Nat) : List (Nat × Char) → Except Fault (Option Nat)
  | [] => .ok none
  | (offset, c) :: rest =>
    if c = opening then scanClose opening closing (depth + 1) rest
    else if c = closing then
      match depth with
      | 0 => .error .underflow
      | n + 1 => if n = 0 then .ok (some offset) else scanClose opening closing n rest
    else scanClose opening closing depth rest

def closingOffset (opening closing : Char) (text : List Char) : Except Fault (Option Nat) :=
  scanClose opening closing 0 (charIndices 0 text)

/-- A counter with a sign and 32 bits. -/
def fit (n : Int) : Except Fault Int :=
  if -0x80000000 ≤ n ∧ n < 0x80000000 then .ok n else .error .overflow

/-- The pieces between the bars at depth zero. The current piece starts at the offset `start`. -/
def scanUnion (type : List Char) (depth : Int) (start : Nat) (previous : Char) :
    List (Nat × Char) → Except Fault (List (List Char))
  | [] => do return [← sliceFrom start type]
  | (offset, c) :: rest =>
    if c = '|' ∧ depth = 0 then do
      let piece ← slice start offset type
      return piece :: (← scanUnion type depth (offset + 1) c rest)
    else do scanUnion type (← fit (depth + depthChange previous c)) start c rest

def splitUnion (type : List Char) : Except Fault (List String) := do
  return (← scanUnion type 0 0 ' ' (charIndices 0 type)).filterMap nonBlank

/-- The lines from one index to another, both included. -/
def range (start stop : Nat) (list : List (List Char)) : Except Fault (List (List Char)) :=
  if stop < start then .error .reversed
  else if list.length ≤ stop then .error .outOfRange
  else .ok ((list.take (stop + 1)).drop start)

def firstFilled? (list : List (List Char)) : Option Nat :=
  list.findIdx? fun line => !isBlankLine line

def lastFilled? (list : List (List Char)) : Option Nat :=
  (firstFilled? list.reverse).map fun i => list.length - 1 - i

def content (list : List (List Char)) : Except Fault (Option String) :=
  match firstFilled? list, lastFilled? list with
  | some start, some stop => do return some (String.ofList (unlines (← range start stop list)))
  | _, _ => .ok none

def renderExample (list : List (List Char)) : Except Fault (Option String) :=
  if list.any isFence then content list
  else do
    let caption := nonBlank (list.headD [])
    let code ← content (list.drop 1)
    if caption.isNone && code.isNone then return none
    return some ("\n".intercalate (caption.toList ++ ["```js"] ++ code.toList ++ ["```"]))

def splitTag (line : List Char) : Except Fault (Option (String × List Char)) :=
  match trimStart line with
  | '@' :: rest => do
    let stop := (find? (fun c => !isTagChar c) rest).getD (byteSize rest)
    if stop = 0 then return none
    let (word, payload) ← splitAt stop rest
    if !payload.isEmpty && !payload.head?.any isBlank then return none
    return some (String.ofList word, payload)
  | _ => .ok none

def readTypes (text : List Char) : Except Fault (Option (List String × List Char)) :=
  if text.head? = some '{' then do
    match ← closingOffset '{' '}' text with
    | none => return none
    | some close =>
      let inner := trim (← slice 1 close text)
      if inner.isEmpty then return none
      let types ← splitUnion inner
      return some (types, trimStart (← sliceFrom (close + 1) text))
  else .ok (some ([], text))

def readName (text : List Char) : Except Fault (Option (Param × List Char)) :=
  if text.head? = some '[' then do
    match ← closingOffset '[' ']' text with
    | none => return none
    | some close =>
      let inner ← slice 1 close text
      match readOptional inner with
      | none => return none
      | some item => return some (item, trimStart (← sliceFrom (close + 1) text))
  else do
    let stop := (find? isBlank text).getD (byteSize text)
    let word ← sliceTo stop text
    if !word.isEmpty && word.all isNameChar then
      return some ({ name := String.ofList word }, trimStart (← sliceFrom stop text))
    return some ({}, text)

def readHeader? (payload : List Char) (named : Bool) :
    Except Fault (Option (Param × List Char)) := do
  match ← readTypes (trimStart payload) with
  | none => return none
  | some (types, rest) =>
    if named then
      return (← readName rest).map fun p => ({ p.1 with types := types }, undash p.2)
    return some ({ types := types }, undash rest)

def readHeader (tag : String) (payload : List Char) (named : Bool) :
    Except Fault (Except Malformed (Param × List Char)) := do
  match ← readHeader? payload named with
  | some header => return .ok header
  | none => return .error ⟨tag, String.ofList (trim payload)⟩

def close (doc : Doc) : Doc.Block → Except Fault Doc
  | .description lines => do
    return { doc with desc := Doc.stack doc.desc (← content lines.reverse) }
  | .parameter item lines => do return doc.addParam { item with desc := ← content lines.reverse }
  | .result item lines => do return doc.addResult { item with desc := ← content lines.reverse }
  | .sample lines => do
    return { doc with examples := doc.examples ++ (← renderExample lines.reverse).toList }
  | .ignored => .ok doc

def flush (doc : Doc) : Option Doc.Block → Except Fault Doc
  | some b => close doc b
  | none => .ok doc

/- Only headers are taken apart, what other tags say is read as it is. -/
def openTag (doc : Doc) (word : String) (payload : List Char) :
    Except Fault (Except Malformed (Doc × Option Doc.Block)) :=
  match Tag.ofWord word with
  | .parameter => do
    return (← readHeader word payload true).map fun h => (doc, some (.parameter h.1 [h.2]))
  | .result => do
    return (← readHeader word payload false).map fun h => (doc, some (.result h.1 [h.2]))
  | _ => .ok (doc.openTag word payload)

def step (state : Doc × Option Doc.Block) (line : List Char) :
    Except Fault (Except Malformed (Doc × Option Doc.Block)) := do
  match ← splitTag line with
  | none => return .ok (state.1, some ((state.2.getD (.description [])).push line))
  | some (word, payload) => openTag (← flush state.1 state.2) word payload

def readLines (state : Doc × Option Doc.Block) :
    List (List Char) → Except Fault (Except Malformed Doc)
  | [] => do return .ok (← flush state.1 state.2)
  | line :: rest => do
    match ← step state line with
    | .error cause => return .error cause
    | .ok next => readLines next rest

def ofBody (body : List Char) : Except Fault (Except Malformed Doc) :=
  readLines ({}, none) (logicalLines body)

def ofComment (block : Bool) (text : String) (seed : Seed) :
    Except Fault (Except Malformed (Option Record)) := do
  if isDocStyle block text then
    return (← ofBody (← sliceFrom 1 text.toList)).map fun doc => some (doc.merge seed)
  return .ok none

end Commentary.Comment.Guarded
