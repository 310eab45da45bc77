import GreetCalc.Validation

/-!
# Greeters

A greeter greets one name. It is made from named fields, of which only the name counts; the name
must be a text and is never converted. The fields of a greeter are frozen: an attempt to change one
ends in a report.
-/

namespace GreetCalc

def greetingStart : String := "hello "

/-- Someone who greets a name. -/
structure Greeter where
  name : String
  deriving DecidableEq, Repr

namespace Greeter

def subject : String := "Greeter"

def greet (g : Greeter) : String := greetingStart ++ g.name

/-- Make a greeter from named fields. -/
def ofFields (fields : Table) : Except Validation.Report Greeter :=
  match fields.get? "name" with
  | some (.text s) => .ok ⟨s⟩
  | some v => .error ⟨subject, [⟨.notText, some "name", v⟩]⟩
  | none => .error ⟨subject, [⟨.missing, some "name", .table fields⟩]⟩

/-- The report of an attempt to put a value under a key, whether there is such a field or
not. -/
def frozenReport (key : String) (v : Value) : Validation.Report :=
  ⟨subject, [⟨.frozen, some key, v⟩]⟩

end Greeter

end GreetCalc
