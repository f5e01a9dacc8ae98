import CpuPinning.Json.Token

/-!
# Reading JSON

A document is read token by token.  The lists and objects that are still open lie on a stack, the
innermost on top; a value that is complete goes into the innermost of them.
-/

namespace CpuPinning.Json

/-- A list or object that is still open, and what may come next in it. -/
inductive Frame where
  /-- After the opening bracket of a list. -/
  | startArr
  /-- A list after an item, items in reverse. -/
  | afterItem (items : List Value)
  /-- A list after a comma. -/
  | nextItem (items : List Value)
  /-- After the opening brace of an object. -/
  | startObj
  /-- An object after a key. -/
  | afterKey (members : List (String × Value)) (key : String)
  /-- An object after the colon that follows a key. -/
  | memberValue (members : List (String × Value)) (key : String)
  /-- An object after a member. -/
  | afterMember (members : List (String × Value))
  /-- An object after a comma. -/
  | nextMember (members : List (String × Value))

/-- What has been read so far: open frames and no value yet, or a complete document. -/
inductive Progress where
  | within (frames : List Frame)
  | done (v : Value)

/-- Puts a complete value into the innermost frame; it is the document if no frame is open. -/
def Progress.put (v : Value) : List Frame → Option Progress
  | [] => some (.done v)
  | .startArr :: fs => some (.within (.afterItem [v] :: fs))
  | .nextItem items :: fs => some (.within (.afterItem (v :: items) :: fs))
  | .startObj :: fs =>
      match v with
      | .str key => some (.within (.afterKey [] key :: fs))
      | _ => none
  | .nextMember members :: fs =>
      match v with
      | .str key => some (.within (.afterKey members key :: fs))
      | _ => none
  | .memberValue members key :: fs => some (.within (.afterMember (setMember key v members) :: fs))
  | _ => none

/-- Whether a list or object may stand here. -/
private def admitsNested : List Frame → Bool
  | [] => true
  | .startArr :: _ => true
  | .nextItem _ :: _ => true
  | .memberValue .. :: _ => true
  | _ => false

/-- Reads one token, with at most `depth` lists and objects inside each other. -/
def Progress.step (depth : Nat) : Progress → Token → Option Progress
  | .done _, _ => none
  | .within fs, .scalar v => put v fs
  | .within fs, .openArr =>
      if admitsNested fs && fs.length < depth then some (.within (.startArr :: fs)) else none
  | .within fs, .openObj =>
      if admitsNested fs && fs.length < depth then some (.within (.startObj :: fs)) else none
  | .within (.startArr :: fs), .closeArr => put (.arr []) fs
  | .within (.afterItem items :: fs), .closeArr => put (.arr items.reverse) fs
  | .within (.afterItem items :: fs), .comma => some (.within (.nextItem items :: fs))
  | .within (.startObj :: fs), .closeObj => put (.obj []) fs
  | .within (.afterMember members :: fs), .closeObj => put (.obj members) fs
  | .within (.afterMember members :: fs), .comma => some (.within (.nextMember members :: fs))
  | .within (.afterKey members key :: fs), .colon => some (.within (.memberValue members key :: fs))
  | .within _, _ => none

/-- The document that a text denotes, with at most `depth` lists and objects inside each other. -/
def readWithin (depth : Nat) (cs : List Char) : Option Value := do
  let ts ← tokens? cs
  match ← ts.foldlM (Progress.step depth) (.within []) with
  | .done v => some v
  | .within _ => none

/-- How many lists and objects may stand inside each other. -/
def depthLimit : Nat := 127

/-- The document that a text denotes; a key that is repeated keeps its place and takes the
last value. -/
def read? (cs : List Char) : Option Value := readWithin depthLimit cs

end CpuPinning.Json
