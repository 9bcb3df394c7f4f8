import ReportBinding.Json.Token

/-!
# JSON documents

A document is a tree of values.  Tokens that stop being well formed still give
a tree: the arrays and objects that are open at that point have a broken end.
`Document.ofTokens` keeps the values that are open on a stack.
-/

namespace ReportBinding
namespace Json

mutual

/-- A value. -/
inductive Node where
  | null
  | boolean (value : Bool)
  | number (numeral : Numeral)
  /-- A string, without text if a surrogate in it stands alone. -/
  | string (text : Option String)
  | array (items : Items)
  | object (members : Members)
  /-- No value, where one is needed. -/
  | absent

/-- The items of an array. -/
inductive Items where
  /-- The end of the array. -/
  | closed
  /-- The end of what is well formed. -/
  | broken
  | cons (head : Node) (tail : Items)

/-- The members of an object. -/
inductive Members where
  /-- The end of the object. -/
  | closed
  /-- The end of what is well formed. -/
  | broken
  /-- A value that is no string stands where a name is needed. -/
  | misnamed (name : Node)
  | cons (name : Option String) (value : Node) (tail : Members)

end

/-- A value, and whether nothing follows it. -/
structure Document where
  root : Node
  complete : Bool

/-- The items of a list, last first, in front of others. -/
def Items.prepend (items : Items) (reversed : List Node) : Items :=
  reversed.foldl (fun items node => .cons node items) items

/-- The members of a list, last first, in front of others. -/
def Members.prepend (members : Members)
    (reversed : List (Option String × Node)) : Members :=
  reversed.foldl (fun members (name, value) => .cons name value members)
    members

/-- An array or object that is open, and what has to come next in it.  What it
holds so far is kept last first. -/
inductive Frame where
  /-- A value, or the end if there is no item so far. -/
  | item (items : List Node)
  /-- A comma or the end. -/
  | itemEnd (items : List Node)
  /-- A name, or the end if there is no member so far. -/
  | memberName (members : List (Option String × Node))
  /-- The colon behind a name. -/
  | memberColon (members : List (Option String × Node)) (name : Option String)
  /-- The value behind a colon. -/
  | memberValue (members : List (Option String × Node)) (name : Option String)
  /-- A comma or the end. -/
  | memberEnd (members : List (Option String × Node))

/-- What is made of a frame when nothing well formed follows.  `inner` is the
value that was open in it, or what stands in its place. -/
def Frame.breakOff (inner : Option Node) : Frame → Node
  | .item items =>
      .array (Items.prepend .broken
        (match inner with
        | some node => node :: items
        | none => items))
  | .itemEnd items => .array (Items.prepend .broken items)
  | .memberName members =>
      .object (Members.prepend
        (match inner with
        | some node => .misnamed node
        | none => .broken) members)
  | .memberColon members name =>
      .object (Members.prepend .broken ((name, .absent) :: members))
  | .memberValue members name =>
      .object (Members.prepend .broken ((name, inner.getD .absent) :: members))
  | .memberEnd members => .object (Members.prepend .broken members)

/-- The value that is made of all open frames when nothing well formed
follows. -/
def breakOff (inner : Option Node) : List Frame → Node
  | [] => inner.getD .absent
  | frame :: frames => breakOff (some (frame.breakOff inner)) frames

/-- What a token begins. -/
inductive Beginning where
  /-- A whole value. -/
  | node (node : Node)
  /-- An array or object. -/
  | frame (frame : Frame)
  /-- No value. -/
  | nothing

/-- What a token begins. -/
def Token.beginning : Token → Beginning
  | .null => .node .null
  | .boolean value => .node (.boolean value)
  | .number numeral => .node (.number numeral)
  | .string text => .node (.string text)
  | .openBracket => .frame (.item [])
  | .openBrace => .frame (.memberName [])
  | _ => .nothing

/-- What stands in the place of a name that is no string. -/
def Token.misplaced : Token → Option Node
  | .null => some .null
  | .boolean value => some (.boolean value)
  | .number numeral => some (.number numeral)
  | .openBracket => some (.array .broken)
  | .openBrace => some (.object .broken)
  | _ => none

/-- How the building goes on. -/
inductive Progress where
  /-- The frames that are open, innermost first. -/
  | frames (frames : List Frame)
  /-- The value of the document is complete. -/
  | root (node : Node)
  /-- Nothing well formed follows. -/
  | brokenOff (node : Node)

/-- Put a whole value into the innermost frame. -/
def deliver (node : Node) : List Frame → Progress
  | [] => .root node
  | .item items :: frames => .frames (.itemEnd (node :: items) :: frames)
  | .memberValue members name :: frames =>
      .frames (.memberEnd ((name, node) :: members) :: frames)
  | frames => .brokenOff (breakOff none frames)

/-- Begin a value in the innermost frame. -/
def enter (token : Token) (frames : List Frame) : Progress :=
  match token.beginning with
  | .node node => deliver node frames
  | .frame frame => .frames (frame :: frames)
  | .nothing => .brokenOff (breakOff none frames)

/-- Take one token. -/
def advance (token : Token) (frames : List Frame) : Progress :=
  match frames, token with
  | .item [] :: outer, .closeBracket => deliver (.array .closed) outer
  | .itemEnd items :: outer, .closeBracket =>
      deliver (.array (Items.prepend .closed items)) outer
  | .itemEnd items :: outer, .comma => .frames (.item items :: outer)
  | .memberName [] :: outer, .closeBrace => deliver (.object .closed) outer
  | .memberName members :: outer, .string text =>
      .frames (.memberColon members text :: outer)
  | .memberName members :: outer, token =>
      .brokenOff (breakOff token.misplaced (.memberName members :: outer))
  | .memberColon members name :: outer, .colon =>
      .frames (.memberValue members name :: outer)
  | .memberEnd members :: outer, .closeBrace =>
      deliver (.object (Members.prepend .closed members)) outer
  | .memberEnd members :: outer, .comma => .frames (.memberName members :: outer)
  | .itemEnd items :: outer, _ =>
      .brokenOff (breakOff none (.itemEnd items :: outer))
  | .memberColon members name :: outer, _ =>
      .brokenOff (breakOff none (.memberColon members name :: outer))
  | .memberEnd members :: outer, _ =>
      .brokenOff (breakOff none (.memberEnd members :: outer))
  | frames, token => enter token frames

/-- The document that a list of tokens completes. -/
def buildFrom (frames : List Frame) : List Token → Document
  | [] => ⟨breakOff none frames, false⟩
  | token :: rest =>
      match advance token frames with
      | .frames frames => buildFrom frames rest
      | .root node => ⟨node, rest.isEmpty⟩
      | .brokenOff node => ⟨node, false⟩

/-- The document of a list of tokens. -/
def Document.ofTokens (tokens : List Token) : Document :=
  buildFrom [] tokens

/-- The document of a text. -/
def Document.ofText (text : String) : Document :=
  Document.ofTokens (tokens text)

/-- Whether items end well. -/
def Items.isClosed : Items → Bool
  | .closed => true
  | .broken => false
  | .cons _ tail => tail.isClosed

/-- Whether members end well. -/
def Members.isClosed : Members → Bool
  | .closed => true
  | .broken => false
  | .misnamed _ => false
  | .cons _ _ tail => tail.isClosed

/-- Whether a value is well formed to its end, strings aside.  What is open
inside of it makes the value itself end badly. -/
def Node.isWhole : Node → Bool
  | .array items => items.isClosed
  | .object members => members.isClosed
  | .absent => false
  | _ => true

end Json
end ReportBinding
