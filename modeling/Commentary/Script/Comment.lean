/-! Comments of a source text and the place each of them belongs to. A comment leads the next
token, or it trails what stands before it on its line. -/
namespace Commentary.Script

/-- A comment without its delimiters. The span counts bytes and includes the delimiters. -/
structure Comment where
  block : Bool
  text : String
  start : Nat
  stop : Nat
  /-- The offset of the token the comment leads, or nothing for a trailing comment. -/
  anchor : Option Nat := none
deriving Repr, DecidableEq

/-- The comments met so far, newest first, and what decides about the pending ones. -/
structure Trivia where
  settled : List Comment := []
  pending : List Comment := []
  /-- A line has ended since the last token. -/
  lineEnded : Bool := true
  /-- The last token leaves a line comment to the token after it. -/
  opening : Bool := false

namespace Trivia

def trail (t : Trivia) : Trivia :=
  { t with settled := t.pending ++ t.settled, pending := [] }

/- Comments that share their line with code before them trail that code. -/
def endLine (t : Trivia) : Trivia :=
  { (if t.lineEnded then t else t.trail) with lineEnded := true }

def addBlock (t : Trivia) (c : Comment) : Trivia :=
  { t with pending := c :: t.pending }

/- A line comment behind code trails it, and so does every comment between the two. -/
def addLine (t : Trivia) (c : Comment) : Trivia :=
  let joined := t.addBlock c
  { (if t.lineEnded || t.opening then joined else joined.trail) with lineEnded := true }

/-- A token at this offset: the comments still pending lead it. -/
def meet (t : Trivia) (start : Nat) (opening : Bool) : Trivia where
  settled := t.pending.map (fun c => { c with anchor := some start }) ++ t.settled
  pending := []
  lineEnded := false
  opening := opening

/-- All settled comments in the order of the source. -/
def comments (t : Trivia) : List Comment :=
  t.settled.reverse

end Trivia

end Commentary.Script
