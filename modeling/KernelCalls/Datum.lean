import KernelCalls.Calendar
import KernelCalls.Table
import KernelCalls.Text.Numeral
import KernelCalls.Text.Shortest

namespace KernelCalls

/-!
# Data values

The values that data files and settings are made of: scalars,
dates, lists and mappings with scalar keys.

* `Datum`, `Key` : a value, and the key of a mapping
* `Datum.kindName`, `Datum.truthy` : its kind, and whether it counts as given
* `Datum.bare`, `Datum.written` : its text bare, and as it stands inside a list
* `Datum.toInt` : the integer that it stands for
* `Datum.elements` : what is met when it is gone through
-/

/-- The key of a mapping. -/
inductive Key where
  | null
  | bool (b : Bool)
  | int (i : Int)
  | float (f : Float)
  | date (d : Date)
  | moment (m : Moment)
  | text (t : Text)
  deriving BEq, Repr

/-- A value of a data file. -/
inductive Datum where
  | null
  | bool (b : Bool)
  | int (i : Int)
  | float (f : Float)
  | date (d : Date)
  | moment (m : Moment)
  | text (t : Text)
  | list (items : List Datum)
  | map (pairs : List (Key × Datum))
  deriving Repr, Inhabited

namespace Key

/-- The key as a value of its own. -/
def toDatum : Key → Datum
  | .null => .null
  | .bool b => .bool b
  | .int i => .int i
  | .float f => .float f
  | .date d => .date d
  | .moment m => .moment m
  | .text t => .text t

/-- The whole number that a key equals, where it is one: truth values count as 0 and 1. -/
def whole? : Key → Option Int
  | .bool b => some (if b then 1 else 0)
  | .int i => some i
  | .float f =>
    if f.isFinite && f == f.floor then some (Text.truncate f) else none
  | _ => none

/-- Two keys are one key of a mapping: numbers and times are compared by value, and what is not a
number is one key. -/
def same (a b : Key) : Bool :=
  match a.whole?, b.whole? with
  | some m, some n => m == n
  | _, _ =>
    match a, b with
    | .float f, .float g => f == g || (f.isNaN && g.isNaN)
    | .moment m, .moment n => m.same n
    | a, b => a == b

end Key

namespace Datum

/-- What a kind of value is called in messages. -/
def kindName : Datum → String
  | .null => "NoneType"
  | .bool _ => "bool"
  | .int _ => "int"
  | .float _ => "float"
  | .date _ => "datetime.date"
  | .moment _ => "datetime.datetime"
  | .text _ => "str"
  | .list _ => "list"
  | .map _ => "dict"

/-- The value counts as given: it is not null, false, zero or empty. -/
def truthy : Datum → Bool
  | .null => false
  | .bool b => b
  | .int i => i != 0
  | .float f => f != 0
  | .date _ | .moment _ => true
  | .text t => !t.isEmpty
  | .list items => !items.isEmpty
  | .map pairs => !pairs.isEmpty

/-- The value under a text key of a mapping. -/
def lookup? (name : Text) (pairs : List (Key × Datum)) : Option Datum :=
  (pairs.find? fun p => p.1 == .text name).map (·.2)

/-- Adds a pair to a mapping: a key that is already there keeps its place and takes the value. -/
def insertPair (pairs : List (Key × Datum)) (k : Key) (d : Datum) : List (Key × Datum) :=
  if pairs.any (·.1.same k) then pairs.map fun p => if p.1.same k then (p.1, d) else p
  else pairs ++ [(k, d)]

/-- A mapping from pairs as they are written. -/
def ofPairs (pairs : List (Key × Datum)) : Datum :=
  .map (pairs.foldl (fun m p => insertPair m p.1 p.2) [])

/-! ### Text -/

/-- The text of a truth value. -/
def boolText (b : Bool) : String := if b then "True" else "False"

/-- A key as it stands inside a mapping. -/
def keyWritten : Key → Except Text.NumberError String
  | .null => .ok "None"
  | .bool b => .ok (boolText b)
  | .int i => Text.writeInt i
  | .float f => .ok (Text.writeFloat f)
  | .date d => .ok d.written
  | .moment m => .ok m.written
  | .text t => .ok (Text.quote t)

mutual

/-- A value as it stands inside a list, with texts in quotes. -/
def written : Datum → Except Text.NumberError String
  | .null => .ok "None"
  | .bool b => .ok (boolText b)
  | .int i => Text.writeInt i
  | .float f => .ok (Text.writeFloat f)
  | .date d => .ok d.written
  | .moment m => .ok m.written
  | .text t => .ok (Text.quote t)
  | .list items => do
    let parts ← writtenItems items
    return "[" ++ ", ".intercalate parts ++ "]"
  | .map pairs => do
    let parts ← writtenPairs pairs
    return "\x7b" ++ ", ".intercalate parts ++ "\x7d"

/-- The items of a list, each as it stands there. -/
def writtenItems : List Datum → Except Text.NumberError (List String)
  | [] => .ok []
  | d :: rest => do
    let part ← written d
    let parts ← writtenItems rest
    return part :: parts

/-- The pairs of a mapping, each as it stands there. -/
def writtenPairs : List (Key × Datum) → Except Text.NumberError (List String)
  | [] => .ok []
  | (k, d) :: rest => do
    let key ← keyWritten k
    let value ← written d
    let parts ← writtenPairs rest
    return (key ++ ": " ++ value) :: parts

end

/-- The text of a value: a text is its own, dates and times are as people read them, and any other
value is as it stands inside a list. -/
def bare : Datum → Except Text.NumberError Text
  | .text t => .ok t
  | .date d => .ok d.text
  | .moment m => .ok m.text
  | d => (written d).map Text.ofString

/-! ### Numbers and elements -/

/-- The integer that a value stands for. Fractions are cut toward zero. -/
def toInt : Datum → Except Text.NumberError Int
  | .bool b => .ok (if b then 1 else 0)
  | .int i => .ok i
  | .float f =>
    if f.isNaN then .error .undefined
    else if f.isInf then .error .infinite
    else .ok (Text.truncate f)
  | .text t => Text.readInt t
  | d => .error (.wrongKind d.kindName)

/-- A value of this kind has no elements. -/
structure NotIterable where
  kind : String
  deriving DecidableEq, Repr

/-- The text that reports the error. -/
def NotIterable.message (e : NotIterable) : String :=
  "'" ++ e.kind ++ "' object is not iterable"

/-- What is met when a value is gone through: the items of a list, the keys of a mapping, the code
points of a text. -/
def elements : Datum → Except NotIterable (List Datum)
  | .list items => .ok items
  | .map pairs => .ok (pairs.map (·.1.toDatum))
  | .text t => .ok (t.map fun c => .text [c])
  | d => .error ⟨d.kindName⟩

end Datum

end KernelCalls
