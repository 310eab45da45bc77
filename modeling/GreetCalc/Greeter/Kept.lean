import GreetCalc.Greeter
import GreetCalc.Value.Access
import GreetCalc.Value.Same

/-!
# Kept greeters

A greeter that is kept can be greeted with, compared, and handled by its fields. Its fields are
frozen: setting or deleting one is refused. There is a way in, though. Keys that begin with an
underscore are *marks* and may be set. Most marks are only stored. Some of them stand for parts of
the greeter itself, such as the table of all its fields, and setting such a mark puts something
else in the place of the part or is refused for reasons of its own. Others steer the greeter once
they stand among its fields:

* the *setters* and the *setter* are what a value has to pass on its way in;
* the *hidden keys* are looked up among the hidden values;
* the *lineage* says what the greeter counts as in a comparison.

Since the table of fields can be replaced as a whole, a greeter may come to lack its name, or to
have a name that is no text. Greeting and comparing are defined for all of these.
-/

namespace GreetCalc

/-- A greeter as it is kept. -/
structure KeptGreeter where
  fields : Table
  /-- Where a field is looked up that it does not have. -/
  spare : Value
  /-- Where a hidden key is looked up. -/
  hidden : Value

namespace KeptGreeter

/-! ### Keys -/

def nameKey : String := "name"

def greetKey : String := "greet"

/-- The mark of the setters. -/
def settersKey : String := "__pydantic_setattr_handlers__"

/-- The mark of the setter for keys without one of their own. -/
def setterKey : String := "_setattr_handler"

/-- The mark of the hidden keys. -/
def hiddenKeysKey : String := "__private_attributes__"

/-- The mark of the lineage. -/
def lineageKey : String := "__pydantic_generic_metadata__"

def originKey : String := "origin"

def isMark (key : String) : Bool := key.toList.head? == some '_'

/-- A part of a greeter that has a mark. -/
inductive Part where
  | kind
  | fields
  | referrers
  | schema
  /-- The fields that it was given, as anyone may read them. -/
  | given
  /-- The fields that it was given. -/
  | noted
  | spare
  | hidden
  deriving DecidableEq, Repr

def Part.all : List Part :=
  [.kind, .fields, .referrers, .schema, .given, .noted, .spare, .hidden]

def Part.key : Part → String
  | .kind => "__class__"
  | .fields => "__dict__"
  | .referrers => "__weakref__"
  | .schema => "__fields__"
  | .given => "__fields_set__"
  | .noted => "__pydantic_fields_set__"
  | .spare => "__pydantic_extra__"
  | .hidden => "__pydantic_private__"

def Part.ofKey? (key : String) : Option Part := all.find? (·.key == key)

/-! ### Faults -/

/-- Why an operation on a kept greeter fails. -/
inductive Fault where
  | frozen (report : Validation.Report)
  /-- A value of this kind stands where something is needed that acts. -/
  | inert (kind : String)
  /-- A value of this kind stands where something is needed that knows setters. -/
  | noSetters (kind : String)
  | noField (key : String)
  | notKind (kind : String)
  | notFields (kind : String)
  | notWritable (part : Part)
  | computed (part : Part)
  | access (fault : AccessFault)
  | compoundName (kind : String)
  | unwritable (fault : Unwritable)

def Fault.message (room : Nat) : Fault → String
  | .frozen report => report.message room
  | .inert kind => "'" ++ kind ++ "' object is not callable"
  | .noSetters kind => "'" ++ kind ++ "' object has no attribute 'get'"
  | .noField key =>
    Text.quoted Greeter.subject ++ " object has no attribute " ++ Text.quoted key
  | .notKind kind => Part.key .kind ++ " must be set to a class, not '" ++ kind ++ "' object"
  | .notFields kind => Part.key .fields ++ " must be set to a dictionary, not a '" ++ kind ++ "'"
  | .notWritable part =>
    "attribute " ++ Text.quoted part.key ++ " of " ++ Text.quoted Greeter.subject
      ++ " objects is not writable"
  | .computed part =>
    "property " ++ Text.quoted part.key ++ " of " ++ Text.quoted Greeter.subject
      ++ " object has no setter"
  | .access fault => fault.message
  | .compoundName kind => "unhashable type: '" ++ kind ++ "'"
  | .unwritable fault => fault.message

/-- An answer of a value, with its faults as faults of the greeter. -/
def answered {α : Type} (x : Except AccessFault α) : Except Fault α := x.mapError .access

/-- An answer of a value that may lack a key, which means that the greeter has no such field. -/
def fieldAnswered {α : Type} (key : String) : Except AccessFault α → Except Fault α
  | .error (.missing _) => .error (.noField key)
  | x => answered x

/-! ### Greeting -/

def ofGreeter (g : Greeter) : KeptGreeter := ⟨[(nameKey, .text g.name)], .null, .null⟩

/-- Whether a key is hidden. What says so must also have something under that key. -/
def hides (g : KeptGreeter) (key : String) : Except Fault Bool := do
  let keys := (g.fields.get? hiddenKeysKey).getD (.table [])
  let under ← answered (keys.heldItem? key)
  .ok under.isSome

/-- The spare value of a field. A spare that does not count as true is not asked. -/
def spareField (g : KeptGreeter) (key : String) : Except Fault (Option Value) :=
  if g.spare.isTrue then answered (g.spare.heldItem? key) else .ok none

/-- The value of a field that is not in the table of fields. -/
def absent (g : KeptGreeter) (key : String) : Except Fault Value := do
  if ← g.hides key then fieldAnswered key (g.hidden.item key)
  else match ← g.spareField key with
    | some v => .ok v
    | none => .error (.noField key)

def field (g : KeptGreeter) (key : String) : Except Fault Value :=
  match g.fields.get? key with
  | some v => .ok v
  | none => g.absent key

/-- The greeting. A field under its key stands in its way. -/
def greet (room : Nat) (g : KeptGreeter) : Except Fault String :=
  match g.fields.get? greetKey with
  | some v => .error (.inert v.kind)
  | none => do
    let v ← g.field nameKey
    let name ← (v.plain room).mapError .unwritable
    return greetingStart ++ name

/-! ### Setting and deleting -/

/-- Pass the setters with a key: one that is given for the key would have to act. -/
def passSetters (g : KeptGreeter) (key : String) : Except Fault Unit :=
  match g.fields.get? settersKey with
  | none => .ok ()
  | some (.table setters) =>
    match Table.get? setters key with
    | none => .ok ()
    | some .null => .ok ()
    | some v => .error (.inert v.kind)
  | some v => .error (.noSetters v.kind)

/-- Pass the setter: one that is given would have to act. -/
def passSetter (g : KeptGreeter) : Except Fault Unit :=
  match g.fields.get? setterKey with
  | none => .ok ()
  | some v => .error (.inert v.kind)

/-- Put a value in the place of a part. -/
def replace (g : KeptGreeter) (v : Value) : Part → Except Fault KeptGreeter
  | .kind => .error (.notKind v.kind)
  | .fields =>
    match v with
    | .table fields => .ok { g with fields := fields }
    | v => .error (.notFields v.kind)
  | .referrers => .error (.notWritable .referrers)
  | .schema => .error (.computed .schema)
  | .given => .error (.computed .given)
  | .noted => .ok g
  | .spare => .ok { g with spare := v }
  | .hidden => .ok { g with hidden := v }

def mark (g : KeptGreeter) (key : String) (v : Value) : Except Fault KeptGreeter :=
  match Part.ofKey? key with
  | some part => g.replace v part
  | none => .ok { g with fields := g.fields.set key v }

/-- Put a value under a key. -/
def set (g : KeptGreeter) (key : String) (v : Value) : Except Fault KeptGreeter := do
  g.passSetters key
  g.passSetter
  if isMark key then g.mark key v else .error (.frozen (Greeter.frozenReport key v))

/-- Take away what stands under a key, which only hidden values permit. -/
def delete (g : KeptGreeter) (key : String) : Except Fault KeptGreeter := do
  if ← g.hides key then
    let hidden ← fieldAnswered key (g.hidden.without key)
    .ok { g with hidden := hidden }
  else .error (.frozen (Greeter.frozenReport key .null))

/-! ### Comparing -/

def ownLineage : Value := .table [(originKey, .null)]

/-- What a greeter counts as, if it is not simply a greeter. -/
def origin (g : KeptGreeter) : Except Fault (Option Value) := do
  let v ← answered (((g.fields.get? lineageKey).getD ownLineage).item originKey)
  .ok (if v.isTrue then some v else none)

/-- Whether two spare values are the same. Those that do not count as true are. -/
def sameSpare (v w : Value) : Bool := (!v.isTrue && !w.isTrue) || v.same w

/-- Whether two different kept greeters are equal. What they count as must be one and the same
thing; of their fields only the name counts. -/
def equals (g h : KeptGreeter) : Except Fault Bool := do
  let a ← g.origin
  let b ← h.origin
  .ok (identicalGiven a b && g.hidden.same h.hidden && sameSpare g.spare h.spare
    && sameGiven (g.fields.get? nameKey) (h.fields.get? nameKey))

/-- Whether a kept greeter is equal to itself, which fails only for the number that is none. -/
def equalsItself (g : KeptGreeter) : Except Fault Bool := do
  let _ ← g.origin
  .ok (!g.hidden.isUndefined && !g.spare.isUndefined)

/-- A greeter can be looked up among others only by a name that is neither list nor table. -/
def checkName (g : KeptGreeter) : Except Fault Unit :=
  match g.fields.get? nameKey with
  | some v => if v.isCompound then .error (.compoundName v.kind) else .ok ()
  | none => .ok ()

end KeptGreeter

end GreetCalc
