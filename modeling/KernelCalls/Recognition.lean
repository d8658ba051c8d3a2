import KernelCalls.Catalog.Matcher
import KernelCalls.Mangling.Decode

namespace KernelCalls

/-!
# Recognising calls

From a symbol to the description of the call: the symbol is decoded, its base name is matched
against the catalog, and both are put together.

* `LookupFailure` : why a symbol is no recognised call
* `TypeName.parse` : the shape that a type name such as `ushort8` spells
* `destination` : the result of a conversion, read off its name
* `assemble` : the description of a decoded and matched symbol
* `build` : the whole way, with the failure of a symbol that is no recognised call
-/

/-- Why the name of a conversion does not say its result. -/
inductive DestinationError where
  | noPrefix
  | notAType (text : Text)
  deriving DecidableEq, Repr

/-- What every conversion starts with. -/
def conversionStart : Text := "convert_"

/-- The text that reports the error. -/
def DestinationError.message : DestinationError → String
  | .noPrefix => "conversion name lacks " ++ Text.quote conversionStart ++ " prefix"
  | .notAType text => "cannot parse destination type " ++ Text.quote text

/-- Why a symbol is no recognised call: it cannot be decoded, its name is in no entry, or it is a
conversion to no type. -/
inductive LookupFailure where
  | decode (f : Mangling.Failure)
  | miss (name : Text)
  | destination (name : Text) (e : DestinationError)
  deriving DecidableEq, Repr

/-- The text that reports the failure. -/
def LookupFailure.message : LookupFailure → Text
  | .decode f => f.message
  | .miss name => Text.quote name ++ ": no catalog entry"
  | .destination name e => Text.quote name ++ ": " ++ e.message

/-- Why there is no description: the symbol is no recognised call, or a fault. -/
inductive Stop where
  | failure (f : LookupFailure)
  | fault (f : Fault)
  deriving DecidableEq, Repr

/-! ### Type names -/

namespace TypeName

/-- The letters at the head of a name and the numeral after them. A name is nothing else, and the
numeral does not start with zero. -/
def split (name : Text) : Option (Text × Text) :=
  let letters := name.takeWhile (·.is Text.isLower)
  let digits := name.dropWhile (·.is Text.isLower)
  let isNumeral := digits.head? != some (.char '0') && digits.all (·.is Text.isDigit)
  if !letters.isEmpty && isNumeral then some (letters, digits) else none

/-- The shape that a name spells with one of the given widths. Only numbers have vectors. -/
def parse (name : Text) (widths : List Int) : Except Fault (Option TypeInfo) :=
  match split name with
  | none => .ok none
  | some (letters, digits) =>
    match Scalar.ofSpelling? letters with
    | none => .ok none
    | some scalar =>
      if digits.isEmpty then .ok (some scalar.type)
      else
        match Text.ofDigits 10 digits with
        | .error e => .error (.number e)
        | .ok width =>
          if (width : Int) ∈ widths ∧ scalar.kind.isNumeric then
            match scalar.type.withWidth width with
            | .ok t => .ok (some t)
            | .error e => .error (.shape e)
          else .ok none

end TypeName

/-! ### Conversions -/

/-- A text without an ending, if it has it. -/
def withoutEnding (ending text : Text) : Text :=
  if ending.isSuffixOf text then text.take (text.length - ending.length) else text

/-- The part of a conversion's name that names its result, with the start still on it: rounding is
the last slot and saturation the one before it. -/
def withoutModifiers (m : Match) (name : Text) : Text :=
  [SuffixFamily.rounding, SuffixFamily.saturation].foldl (fun text family =>
    match m.token? family with
    | some token => withoutEnding token.text text
    | none => text) name

/-- The result of a conversion, read off its name. It is a number or a vector of numbers. -/
def destination (name : Text) (m : Match) (widths : List Int) : Except Stop TypeInfo :=
  let text := withoutModifiers m name
  if conversionStart.isPrefixOf text then
    let typeName := text.drop conversionStart.length
    match TypeName.parse typeName widths with
    | .error f => .error (.fault f)
    | .ok none => .error (.failure (.destination name (.notAType typeName)))
    | .ok (some t) =>
      if t.kind = .void ∨ t.kind = .bool then
        .error (.failure (.destination name (.notAType typeName)))
      else .ok t
  else .error (.failure (.destination name .noPrefix))

/-! ### Whole symbols -/

/-- The category of a matched call, which may depend on its having a sampler. -/
def Match.category (m : Match) (params : List TypeInfo) : Category :=
  match m.entry.sampled with
  | some sampled => if CallInfo.hasSampler params then sampled else m.entry.category
  | none => m.entry.category

/-- The description of a decoded symbol whose name was matched. -/
def assemble (d : Mangling.Decoded) (m : Match) (widths : List Int) : Except Stop CallInfo := do
  let category := m.category d.params
  let returnType ← if category = .convert then destination d.name m widths else pure .void
  (CallInfo.check ⟨true, category, d.name, returnType, d.params, m.variant⟩).mapError
    fun e => .fault (.call e)

/-- The description of a symbol. -/
def recognise (m : Matcher) (c : Catalog) (widths : List Int) (symbol : Text) :
    Except Stop CallInfo :=
  match Mangling.decode symbol widths with
  | .error (.failed f) => .error (.failure (.decode f))
  | .error (.fault f) => .error (.fault f)
  | .ok decoded =>
    match m.classify c decoded.name with
    | none => .error (.failure (.miss decoded.name))
    | some found => assemble decoded found widths

/-- The description of a symbol: the invalid one, with the failure, for a symbol that is no
recognised call. A description that cannot be written down is a fault. -/
def build (m : Matcher) (c : Catalog) (widths : List Int) (symbol : Text) :
    Except Fault (CallInfo × Option LookupFailure) :=
  match recognise m c widths symbol with
  | .error (.failure f) => .ok (.invalid, some f)
  | .error (.fault f) => .error f
  | .ok info =>
    match info.text with
    | .ok _ => .ok (info, none)
    | .error e => .error (.number e)

end KernelCalls
