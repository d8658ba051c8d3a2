import KernelCalls.Mangling.Basic
import KernelCalls.Proofs.Text.Numeral

namespace KernelCalls.Mangling

open Text (IsNumeral)

/-!
# The grammar of symbols

Which texts are symbols and what they say, as relations that read nothing and keep no stack.  A type
is spelled against the table of the types before it and leaves a longer table behind, so a list of
types threads one table through.

* `IsSourceName`, `QualifierGroup`, `IsReference` : counted names, groups of qualifiers and the
  numbers of back-references.
* `Constructs`, `Layer.Makes` : the text of one constructor, and what it makes of its operand.
* `Spells` : the text of one type with its shape.
* `SpellsAll`, `IsSymbol` : the types of a parameter list, and whole symbols.

Every relation also lists the numerals of the text, those of back-references included, because a
numeral of more than `Text.maxDigits` characters is grammatical and yet cannot be read.
-/

/-- No numeral of the list is too long to be read. -/
def Readable (numerals : List Text) : Prop := ∀ digits ∈ numerals, digits.length ≤ Text.maxDigits

/-! ### Names, qualifiers and references -/

/-- A name behind the numeral of its length. -/
structure IsSourceName (text numeral name : Text) : Prop where
  text_eq : text = numeral ++ name
  isNumeral : IsNumeral numeral name.length
  identifier : isIdentifier name = true

/-- Vendor qualifiers: each a `U` and a counted name. -/
inductive VendorQualifiers : Text → List Text → Prop where
  | nil : VendorQualifiers [] []
  | cons {source numeral name rest : Text} {numerals : List Text}
      (head : IsSourceName source numeral name) (tail : VendorQualifiers rest numerals) :
      VendorQualifiers (.char 'U' :: (source ++ rest)) (numeral :: numerals)

/-- The character alone, or nothing. -/
def AtMost (c : CodePoint) (text : Text) : Prop := text = [] ∨ text = [c]

/-- A group of qualifiers: vendor qualifiers, then `r`, `V` and `K` in this order, at least one of
    all these. -/
inductive QualifierGroup : Text → List Text → Prop where
  | mk {vendors r v k : Text} {numerals : List Text} (vendor : VendorQualifiers vendors numerals)
      (restrict : AtMost 'r' r) (volatile : AtMost 'V' v) (const : AtMost 'K' k)
      (ne_nil : vendors ++ (r ++ (v ++ k)) ≠ []) :
      QualifierGroup (vendors ++ (r ++ (v ++ k))) numerals

/-- The group takes all it can of what it stands in front of: no group that the same text starts
    with is longer. -/
def IsMaximal (group after : Text) : Prop :=
  ∀ longer numerals, QualifierGroup longer numerals → longer <+: group ++ after →
    longer.length ≤ group.length

/-- The number of a back-reference: nothing for the first entry of the table, otherwise the place
    less one in base 36. -/
inductive IsReference : Text → Nat → Prop where
  | first : IsReference [] 0
  | later {sequence : Text} (ne_nil : sequence ≠ [])
      (chars : ∀ c ∈ sequence, isSequenceChar c = true) :
      IsReference sequence (Text.ofDigitValues 36 (sequence.map Text.digitValue) + 1)

/-! ### Types -/

/-- The text of a constructor in front of the text of its operand. -/
inductive Constructs (widths : List Int) : Layer → Text → List Text → Text → Prop where
  | pointer {after : Text} : Constructs widths .pointer [.char 'P'] [] after
  | qualified {group after : Text} {numerals : List Text} (isGroup : QualifierGroup group numerals)
      (maximal : IsMaximal group after) : Constructs widths .qualified group numerals after
  | vector {digits after : Text} {lanes : Nat} (isNumeral : IsNumeral digits lanes)
      (allowed : (lanes : Int) ∈ widths) :
      Constructs widths (.vector lanes) (.char 'D' :: .char 'v' :: (digits ++ [.char '_'])) [digits]
        after

/-- What a constructor makes of its operand.  Pointers and qualifiers keep its shape; a vector sets
    the number of lanes and needs a number that has no lanes yet. -/
inductive Layer.Makes : Layer → TypeInfo → TypeInfo → Prop where
  | pointer {t : TypeInfo} : Makes .pointer t t
  | qualified {t : TypeInfo} : Makes .qualified t t
  | vector {t : TypeInfo} {lanes : Nat} (isNumeric : t.kind.isNumeric = true)
      (isScalar : t.isVector = false) : Makes (.vector lanes) t { t with width := lanes }

/-- The text of a type, its numerals, its shape and the table it leaves behind.  Named types and
    constructed types join the table, operands first. -/
inductive Spells (widths : List Int) :
    List TypeInfo → Text → List Text → TypeInfo → List TypeInfo → Prop where
  | scalar {table : List TypeInfo} {code : CodePoint} {s : Scalar}
      (isCode : builtinCode? code = some s) : Spells widths table [code] [] s.type table
  | half {table : List TypeInfo} :
      Spells widths table [.char 'D', .char 'h'] [] Scalar.half.type table
  | handle {table : List TypeInfo} {text numeral name : Text}
      (isName : IsSourceName text numeral name) :
      Spells widths table text [numeral] (.handle name) (table ++ [.handle name])
  | reference {table : List TypeInfo} {sequence : Text} {index : Nat} {t : TypeInfo}
      (isReference : IsReference sequence index) (found : table[index]? = some t) :
      Spells widths table (.char 'S' :: (sequence ++ [.char '_'])) [sequence] t table
  | construct {table table' : List TypeInfo} {layer : Layer} {front text : Text}
      {numerals numerals' : List Text} {t t' : TypeInfo}
      (constructs : Constructs widths layer front numerals text)
      (operand : Spells widths table text numerals' t table') (makes : layer.Makes t t') :
      Spells widths table (front ++ text) (numerals ++ numerals') t' (table' ++ [t'])

/-! ### Symbols -/

/-- The types of a parameter list one after the other, none of which starts with `v`. -/
inductive SpellsAll (widths : List Int) :
    List TypeInfo → Text → List Text → List TypeInfo → Prop where
  | nil {table : List TypeInfo} : SpellsAll widths table [] [] []
  | cons {table table' : List TypeInfo} {text rest : Text} {numerals numerals' : List Text}
      {t : TypeInfo} {ts : List TypeInfo} (head : Spells widths table text numerals t table')
      (notVoid : text.head? ≠ some (.char 'v')) (tail : SpellsAll widths table' rest numerals' ts) :
      SpellsAll widths table (text ++ rest) (numerals ++ numerals') (t :: ts)

/-- A whole symbol with its numerals and what it says: a plain identifier, or `_Z` and a counted
    name with nothing, a lone `v` or parameter types behind it. -/
inductive IsSymbol (widths : List Int) : Text → List Text → Decoded → Prop where
  | plain {symbol : Text} (notMangled : ¬ [.char '_', .char 'Z'] <+: symbol)
      (identifier : isIdentifier symbol = true) : IsSymbol widths symbol [] ⟨symbol, [], false⟩
  | bare {source numeral name : Text} (isName : IsSourceName source numeral name) :
      IsSymbol widths (.char '_' :: .char 'Z' :: source) [numeral] ⟨name, [], true⟩
  | void {source numeral name : Text} (isName : IsSourceName source numeral name) :
      IsSymbol widths (.char '_' :: .char 'Z' :: (source ++ [.char 'v'])) [numeral] ⟨name, [], true⟩
  | params {source numeral name text : Text} {numerals : List Text} {ts : List TypeInfo}
      (isName : IsSourceName source numeral name) (spelled : SpellsAll widths [] text numerals ts)
      (ne_nil : ts ≠ []) :
      IsSymbol widths (.char '_' :: .char 'Z' :: (source ++ text)) (numeral :: numerals)
        ⟨name, ts, true⟩

end KernelCalls.Mangling
