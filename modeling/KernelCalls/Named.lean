import KernelCalls.Text.Quoted
import KernelCalls.Text.Upper

namespace KernelCalls

/-!
# Named values

Closed sets of values that are written and read by name, in any letter case.

* `Named` : a type whose values are listed with their names
* `Named.ofName` : the value that a name spells
-/

/-- A type with finitely many values, each known by a name. -/
class Named (α : Type) where
  /-- What the set is called in messages. -/
  title : String
  /-- All values in order. -/
  members : List α
  /-- The name of a value. -/
  name : α → String

/-- The text is not a name of the set. -/
structure UnknownName where
  text : Text
  title : String
  deriving DecidableEq, Repr

/-- The text that reports the error. -/
def UnknownName.message (e : UnknownName) : String :=
  Text.quote e.text ++ " is not a valid " ++ e.title

namespace Named

variable {α : Type} [Named α]

/-- The value that a name spells: its upper-case form is a name, or both agree in lower case. -/
def ofName? (text : Text) : Option α :=
  let raised := Text.upper text
  let lowered := Text.lowerAscii text
  match (members (α := α)).find? fun a => Text.ofString (name a) == raised with
  | some a => some a
  | none => (members (α := α)).find? fun a => Text.lowerAscii (name a) == lowered

/-- The value that a name spells, or what is wrong with the name. -/
def ofName (α : Type) [Named α] (text : Text) : Except UnknownName α :=
  match ofName? text with
  | some a => .ok a
  | none => .error ⟨text, title α⟩

end Named

end KernelCalls
