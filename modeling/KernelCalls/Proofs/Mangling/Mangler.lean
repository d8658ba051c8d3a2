import KernelCalls.Mangling.Basic
import KernelCalls.Proofs.Text.Numeral

namespace KernelCalls.Mangling

/-!
# Writing symbols

Symbols as a compiler writes them.  The types of the source are trees, and every type but a builtin
one joins a table when it has been written; a type that is in the table already is written as its
place there.

* `SourceType`, `SourceType.shape` : the types of the source, and what is left of them when pointers
  and qualifiers are forgotten.
* `Piece` : a symbol is written in marks and numerals, so that its numerals are known.
* `mangleType`, `mangleParams`, `mangle` : the text of a type, of a parameter list and of a
  function.
-/

/-! ### Types of the source -/

/-- The builtin types that have a code of their own. -/
inductive Builtin where
  | void
  | bool
  | char
  | signedChar
  | uchar
  | short
  | ushort
  | int
  | uint
  | long
  | ulong
  | longLong
  | ulongLong
  | float
  | double
  | half
  deriving DecidableEq, Repr

/-- The code of a builtin type. -/
def Builtin.code : Builtin → Text
  | .void => [.char 'v']
  | .bool => [.char 'b']
  | .char => [.char 'c']
  | .signedChar => [.char 'a']
  | .uchar => [.char 'h']
  | .short => [.char 's']
  | .ushort => [.char 't']
  | .int => [.char 'i']
  | .uint => [.char 'j']
  | .long => [.char 'l']
  | .ulong => [.char 'm']
  | .longLong => [.char 'x']
  | .ulongLong => [.char 'y']
  | .float => [.char 'f']
  | .double => [.char 'd']
  | .half => [.char 'D', .char 'h']

/-- The scalar type that a builtin type is. -/
def Builtin.scalar : Builtin → Scalar
  | .void => .void
  | .bool => .bool
  | .char | .signedChar => .char
  | .uchar => .uchar
  | .short => .short
  | .ushort => .ushort
  | .int => .int
  | .uint => .uint
  | .long | .longLong => .long
  | .ulong | .ulongLong => .ulong
  | .float => .float
  | .double => .double
  | .half => .half

/-- A group of qualifiers: the names of the vendor qualifiers and three flags. -/
structure Qualifiers where
  vendors : List Text
  restrict : Bool
  volatile : Bool
  const : Bool
  deriving DecidableEq, Repr

/-- A type of the source. -/
inductive SourceType where
  | builtin (b : Builtin)
  | pointer (base : SourceType)
  | qualified (qualifiers : Qualifiers) (base : SourceType)
  | vector (lanes : Nat) (base : SourceType)
  | named (name : Text)
  deriving DecidableEq, Repr

/-- What is left of a type: the shape of what it points to, and of what it qualifies. -/
def SourceType.shape : SourceType → TypeInfo
  | .builtin b => b.scalar.type
  | .pointer base => base.shape
  | .qualified _ base => base.shape
  | .vector lanes base => { base.shape with width := lanes }
  | .named name => .handle name

/-- The type is a group of qualifiers on another one. -/
def SourceType.isQualified : SourceType → Bool
  | .qualified _ _ => true
  | _ => false

/-- The group has a qualifier, and vendor qualifiers are identifiers. -/
structure Qualifiers.WellFormed (q : Qualifiers) : Prop where
  nonempty : q.vendors ≠ [] ∨ q.restrict = true ∨ q.volatile = true ∨ q.const = true
  identifier : ∀ name ∈ q.vendors, isIdentifier name = true

/-- Qualifiers come in one group, vectors have one of the given widths and are made of numbers, and
    names are identifiers. -/
def SourceType.WellFormed (widths : List Int) : SourceType → Prop
  | .builtin _ => True
  | .pointer base => base.WellFormed widths
  | .qualified q base => q.WellFormed ∧ base.isQualified = false ∧ base.WellFormed widths
  | .vector lanes base =>
    (lanes : Int) ∈ widths ∧ base.shape.kind.isNumeric = true ∧ base.shape.isVector = false ∧
      base.WellFormed widths
  | .named name => isIdentifier name = true

instance (q : Qualifiers) : Decidable q.WellFormed :=
  decidable_of_iff
    ((q.vendors ≠ [] ∨ q.restrict = true ∨ q.volatile = true ∨ q.const = true) ∧
      ∀ name ∈ q.vendors, isIdentifier name = true)
    ⟨fun ⟨hnonempty, hidentifier⟩ => ⟨hnonempty, hidentifier⟩,
      fun h => ⟨h.nonempty, h.identifier⟩⟩

/-- Well-formedness is decided along the type. -/
def SourceType.decidableWellFormed (widths : List Int) :
    (t : SourceType) → Decidable (t.WellFormed widths)
  | .builtin _ => .isTrue trivial
  | .pointer base => base.decidableWellFormed widths
  | .qualified q base =>
    have := base.decidableWellFormed widths
    inferInstanceAs (Decidable (q.WellFormed ∧ base.isQualified = false ∧ base.WellFormed widths))
  | .vector lanes base =>
    have := base.decidableWellFormed widths
    inferInstanceAs (Decidable ((lanes : Int) ∈ widths ∧ base.shape.kind.isNumeric = true ∧
      base.shape.isVector = false ∧ base.WellFormed widths))
  | .named name => inferInstanceAs (Decidable (isIdentifier name = true))

instance (widths : List Int) (t : SourceType) : Decidable (t.WellFormed widths) :=
  t.decidableWellFormed widths

/-! ### Pieces -/

/-- A piece of a symbol: a text as it is, or a numeral. -/
inductive Piece where
  | mark (text : Text)
  | number (digits : Text)
  deriving DecidableEq, Repr

/-- The characters of a piece. -/
def Piece.text : Piece → Text
  | .mark text => text
  | .number digits => digits

/-- The numeral that a piece is. -/
def Piece.numeral? : Piece → Option Text
  | .mark _ => none
  | .number digits => some digits

/-- The text of a list of pieces. -/
def written (pieces : List Piece) : Text := pieces.flatMap Piece.text

/-- The numerals of a list of pieces. -/
def numerals (pieces : List Piece) : List Text := pieces.filterMap Piece.numeral?

section Pieces

variable (text : Text) (pieces pieces' : List Piece)

@[simp] theorem written_nil : written [] = [] := rfl

@[simp] theorem written_mark : written (.mark text :: pieces) = text ++ written pieces := rfl

@[simp] theorem written_number : written (.number text :: pieces) = text ++ written pieces := rfl

@[simp] theorem written_append : written (pieces ++ pieces') = written pieces ++ written pieces' :=
  List.flatMap_append

@[simp] theorem numerals_nil : numerals [] = [] := rfl

@[simp] theorem numerals_mark : numerals (.mark text :: pieces) = numerals pieces := rfl

@[simp] theorem numerals_number : numerals (.number text :: pieces) = text :: numerals pieces := rfl

@[simp] theorem numerals_append :
    numerals (pieces ++ pieces') = numerals pieces ++ numerals pieces' :=
  List.filterMap_append

end Pieces

/-! ### Writing -/

/-- A name behind its length. -/
def sourceName (name : Text) : List Piece :=
  [.number (Text.numeral 10 name.length), .mark name]

/-- Vendor qualifiers, each a `U` and a name. -/
def vendorPieces (vendors : List Text) : List Piece :=
  vendors.flatMap fun name => .mark [.char 'U'] :: sourceName name

/-- The character of a flag that is set. -/
def flag (c : Char) (isSet : Bool) : Text := if isSet then [.char c] else []

/-- A group of qualifiers, the flags in the order `r`, `V`, `K`. -/
def Qualifiers.pieces (q : Qualifiers) : List Piece :=
  vendorPieces q.vendors ++
    [.mark (flag 'r' q.restrict), .mark (flag 'V' q.volatile), .mark (flag 'K' q.const)]

/-- The number of a place in the table: none for the first, otherwise the place less one in base
    36. -/
def sequence : Nat → Text
  | 0 => []
  | place + 1 => Text.numeral 36 place

/-- A back-reference to a place in the table. -/
def reference (place : Nat) : List Piece :=
  [.mark [.char 'S'], .number (sequence place), .mark [.char '_']]

/-- Writes a type as its place in the table if it has one; otherwise in full, and then it joins the
    table. -/
def compress (table : List SourceType) (t : SourceType) (full : List Piece × List SourceType) :
    List Piece × List SourceType :=
  match table.idxOf? t with
  | some place => (reference place, table)
  | none => (full.1, full.2 ++ [t])

/-- A type, and the table behind it. -/
def mangleType (table : List SourceType) : SourceType → List Piece × List SourceType
  | .builtin b => ([.mark b.code], table)
  | .pointer base =>
    let operand := mangleType table base
    compress table (.pointer base) (.mark [.char 'P'] :: operand.1, operand.2)
  | .qualified q base =>
    let operand := mangleType table base
    compress table (.qualified q base) (q.pieces ++ operand.1, operand.2)
  | .vector lanes base =>
    let operand := mangleType table base
    let front := [.mark [.char 'D', .char 'v'], .number (Text.numeral 10 lanes), .mark [.char '_']]
    compress table (.vector lanes base) (front ++ operand.1, operand.2)
  | .named name => compress table (.named name) (sourceName name, table)

/-- Parameter types from the left to the right, with one table. -/
def mangleParams (table : List SourceType) : List SourceType → List Piece
  | [] => []
  | t :: ts =>
    let head := mangleType table t
    head.1 ++ mangleParams head.2 ts

/-- A function with its parameters.  Without parameters there is a `v` or nothing behind the
    name. -/
def mangle (name : Text) (params : List SourceType) (voidMark : Bool) : List Piece :=
  .mark [.char '_', .char 'Z'] :: sourceName name ++
    if params = [] then [.mark (flag 'v' voidMark)] else mangleParams [] params

end KernelCalls.Mangling
