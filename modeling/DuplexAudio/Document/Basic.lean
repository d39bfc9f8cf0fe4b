/-!
Documents: what a structured text says, whatever its notation. Reading a text never fails as such;
where it stops making sense the document has a broken leaf, and only who looks there finds out.
-/

namespace DuplexAudio

inductive Document
  | null
  | boolean (value : Bool)
  | integer (value : Int)
  | text (value : String)
  | sequence (items : List Document)
  /-- A key that is not text is `none`. -/
  | mapping (members : List (Option String × Document))
  /-- A sound value of a kind that no record takes, such as a fraction. -/
  | foreign
  | broken
  deriving Inhabited

namespace Document

mutual

/-- No leaf is broken, so the document can be passed over. -/
def intact : Document → Bool
  | .broken => false
  | .sequence items => intactItems items
  | .mapping members => intactMembers members
  | _ => true

def intactItems : List Document → Bool
  | [] => true
  | item :: rest => intact item && intactItems rest

def intactMembers : List (Option String × Document) → Bool
  | [] => true
  | (_, value) :: rest => intact value && intactMembers rest

end

/-- A mapping from written keys, in the given order. -/
def record (members : List (String × Document)) : Document :=
  .mapping (members.map fun (key, value) => (some key, value))

def word (value : UInt32) : Document := .integer value.toNat

end Document
end DuplexAudio
