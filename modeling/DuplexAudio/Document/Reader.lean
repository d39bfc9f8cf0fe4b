import DuplexAudio.Document.Basic
import DuplexAudio.Mode.Table

/-!
Reading typed values out of documents. Members are read in the order in which the document lists
them, and the first fault met wins; a missing field is noticed only when its record ends.
-/

namespace DuplexAudio

/-- Why a document does not hold the value asked for. -/
inductive ReadFault
  | unreadable
  | missingField (name : String)
  | invalidTable (fault : TableFault)
  deriving DecidableEq, Repr

/-- The words for a fault that concern the value and not the notation. -/
def ReadFault.message? : ReadFault → Option String
  | .unreadable => none
  | .missingField name => some ("missing field \x60" ++ name ++ "\x60")
  | .invalidTable fault => some fault.message

/-- Where the notations differ in what they let pass. -/
structure Dialect where
  /-- A record written as a sequence may be followed by further items. -/
  surplusItems : Bool
  /-- What may stand for the content of a choice that has none. -/
  isUnit : Document → Bool

namespace Document

abbrev Reader (α : Type) := Document → Except ReadFault α

def readBoolean : Reader Bool
  | .boolean value => .ok value
  | _ => .error .unreadable

def readText : Reader String
  | .text value => .ok value
  | _ => .error .unreadable

/-- An integer from zero up to but not including `bound`. -/
def readNatural (bound : Nat) : Reader Nat
  | .integer (.ofNat value) => if value < bound then .ok value else .error .unreadable
  | _ => .error .unreadable

def readWord : Reader UInt32 := fun document =>
  (readNatural UInt32.size document).map (UInt32.ofNat ·)

def readNullable {α : Type} (reader : Reader α) : Reader (Option α)
  | .null => .ok none
  | document => (reader document).map some

def readList {α : Type} (reader : Reader α) : Reader (List α)
  | .sequence items => items.mapM reader
  | _ => .error .unreadable

/-- One of several names, alone or as the only key of a mapping to nothing. -/
def readChoice {α : Type} (dialect : Dialect) (ofName? : String → Option α) : Reader α
  | .text name => ofChoice (ofName? name)
  | .mapping [(some name, content)] =>
    if dialect.isUnit content then ofChoice (ofName? name) else .error .unreadable
  | _ => .error .unreadable
where
  ofChoice : Option α → Except ReadFault α
    | some value => .ok value
    | none => .error .unreadable

/-- A field of a record under construction: how its value is read into the draft, and whether it
may be left out at the end of a sequence. -/
structure RecordField (Draft : Type) where
  name : String
  hasDefault : Bool := false
  store : Draft → Document → Except ReadFault Draft

variable {Draft α : Type}

/-- Reads the members in their order. Unknown keys are passed over, a key that comes again is a
fault. -/
def storeMembers (fields : List (RecordField Draft)) (seen : List String) (draft : Draft) :
    List (Option String × Document) → Except ReadFault Draft
  | [] => .ok draft
  | (none, _) :: _ => .error .unreadable
  | (some key, value) :: rest =>
    match fields.find? (·.name == key) with
    | none =>
      if value.intact then storeMembers fields seen draft rest else .error .unreadable
    | some field =>
      if seen.contains key then .error .unreadable
      else match field.store draft value with
        | .error fault => .error fault
        | .ok draft => storeMembers fields (key :: seen) draft rest

/-- Reads the fields in declaration order from a sequence. -/
def storeItems (dialect : Dialect) (draft : Draft) :
    List (RecordField Draft) → List Document → Except ReadFault Draft
  | [], [] => .ok draft
  | [], _ :: _ => if dialect.surplusItems then .ok draft else .error .unreadable
  | field :: fields, [] =>
    if field.hasDefault then storeItems dialect draft fields [] else .error .unreadable
  | field :: fields, item :: items =>
    match field.store draft item with
    | .error fault => .error fault
    | .ok draft => storeItems dialect draft fields items

/-- A record, written as a mapping or as the sequence of its fields. -/
def readRecord (dialect : Dialect) (fields : List (RecordField Draft)) (draft : Draft)
    (complete : Draft → Except ReadFault α) : Reader α
  | .mapping members => (storeMembers fields [] draft members).bind complete
  | .sequence items => (storeItems dialect draft fields items).bind complete
  | _ => .error .unreadable

def required (name : String) : Option α → Except ReadFault α
  | some value => .ok value
  | none => .error (.missingField name)

end Document
end DuplexAudio
