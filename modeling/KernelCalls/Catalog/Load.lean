import KernelCalls.Catalog.Basic
import KernelCalls.Datum

namespace KernelCalls.Catalog

/-!
# Loading catalogs

Adding the contents of a data value to a catalog. Work goes record by record, and what was stored
before something wrong is met stays stored.

* `Problem`, `Issue`, `LoadError` : what can be wrong
* `parseTokens`, `parseRecord` : the tokens of a family and the entries of one record
* `load` : everything in the data, with the catalog that is reached
-/

/-- Why a value does not name a member of a closed set, or is no number. -/
inductive ValueError where
  | number (e : Text.NumberError)
  | name (e : UnknownName)
  deriving DecidableEq, Repr

/-- The text that reports the error. -/
def ValueError.message : ValueError → String
  | .number e => e.message
  | .name e => e.message

/-- What is wrong with catalog data. Values that are shown are given as they are written. -/
inductive Problem where
  | notMapping
  | suffixesNotMapping
  | unknownFamily (written : String)
  | tokensNotTable (family : SuffixFamily)
  | emptyToken (family : SuffixFamily)
  | badToken (family : SuffixFamily) (token : Text) (cause : ValueError)
  | builtinsNotMapping
  | conflict (stem : Text)
  | missingCategory (stem : Text)
  | unknownSlot (stem : Text) (written : String)
  | repeatedSlot (stem : Text)
  | badCategory (stem : Text) (cause : ValueError)
  | noCategory (stem : Text)
  deriving DecidableEq, Repr

/-- The text that reports the problem. -/
def Problem.message : Problem → Text
  | .notMapping => "catalog must be a mapping"
  | .suffixesNotMapping => "suffixes must be a mapping"
  | .unknownFamily written => "unknown suffix family " ++ written
  | .tokensNotTable family => "tokens of " ++ family.name ++ " must be a list or mapping"
  | .emptyToken family => "empty " ++ family.name ++ " token"
  | .badToken family token cause =>
    "bad " ++ family.name ++ " token " ++ Text.quote token ++ ": " ++ cause.message
  | .builtinsNotMapping => "builtins must be a mapping"
  | .conflict stem => "conflicting definitions of " ++ Text.quote stem
  | .missingCategory stem => stem ++ ": missing category"
  | .unknownSlot stem written => stem ++ ": unknown suffix family " ++ written
  | .repeatedSlot stem => stem ++ ": repeated suffix family"
  | .badCategory stem cause => stem ++ ": " ++ cause.message
  | .noCategory stem => stem ++ ": NONE is not a builtin category"

/-- What stops a load: data with a problem, a number out of reach, or a value without elements where
elements are gone through. -/
inductive Issue where
  | problem (p : Problem)
  | number (e : Text.NumberError)
  | notIterable (e : Datum.NotIterable)
  deriving DecidableEq, Repr

/-- An issue in the data of a source. -/
structure LoadError where
  source : Text
  issue : Issue
  deriving DecidableEq, Repr

/-- The text that reports the error; a problem is reported with its source. -/
def LoadError.message (e : LoadError) : Text :=
  match e.issue with
  | .problem p => e.source ++ ": " ++ p.message
  | .number n => n.message
  | .notIterable n => n.message

/-! ### Suffix tokens -/

/-- The text of a value. -/
def textOf (d : Datum) : Except Issue Text := d.bare.mapError .number

/-- The member of a closed set that the text of a value names. -/
def readNamed (α : Type) [Named α] (d : Datum) : Except ValueError α :=
  match d.bare with
  | .error e => .error (.number e)
  | .ok text => (Named.ofName α text).mapError .name

/-- The number of lanes that a token stands for: its value, or else the token itself. A list or an
infinity is not a wrong token but stops the load. -/
def readLanes (token : Text) (value : Datum) : Except Issue SuffixValue :=
  let given : Datum := match value with
    | .null => .text token
    | d => d
  match given.toInt with
  | .ok n => .ok (.lanes n)
  | .error (.wrongKind kind) => .error (.number (.wrongKind kind))
  | .error .infinite => .error (.number .infinite)
  | .error e => .error (.problem (.badToken .width token (.number e)))

/-- What a token of a family stands for. -/
def readToken (family : SuffixFamily) (token : Text) (value : Datum) : Except Issue SuffixValue :=
  match family with
  | .width => readLanes token value
  | .format =>
    match readNamed PixelFormat value with
    | .ok f => .ok (.pixels f)
    | .error e => .error (.problem (.badToken family token e))
  | .saturation => .ok .saturate
  | .rounding =>
    match readNamed RoundingMode value with
    | .ok r => .ok (.mode r)
    | .error e => .error (.problem (.badToken family token e))

/-- Adds tokens to those read so far; none of them may be empty. -/
def readTokens (family : SuffixFamily) :
    List (Datum × Datum) → Table Text SuffixValue → Except Issue (Table Text SuffixValue)
  | [], read => .ok read
  | (key, value) :: rest, read => do
    let token ← textOf key
    if token.isEmpty then throw (.problem (.emptyToken family))
    let v ← readToken family token value
    readTokens family rest (read.insert token v)

/-- The tokens of a family: a mapping from tokens to values, or a list of tokens alone. -/
def parseTokens (family : SuffixFamily) : Datum → Except Issue (Table Text SuffixValue)
  | .list items => do
    let names ← items.mapM textOf
    let distinct := Table.insertAll [] (names.map fun n => (n, ()))
    readTokens family (distinct.map fun p => (.text p.1, .null)) []
  | .map pairs => readTokens family (pairs.map fun p => (p.1.toDatum, p.2)) []
  | _ => .error (.problem (.tokensNotTable family))

/-! ### Records -/

/-- The category that a value names. -/
def parseCategory (stem : Text) (d : Datum) : Except Issue Category :=
  match readNamed Category d with
  | .error e => .error (.problem (.badCategory stem e))
  | .ok .unclassified => .error (.problem (.noCategory stem))
  | .ok c => .ok c

/-- The value under a name, where it counts as given. -/
def given? (name : Text) (pairs : List (Key × Datum)) : Option Datum :=
  (Datum.lookup? name pairs).filter Datum.truthy

/-- The values that a field lists; an absent field lists none. -/
def listed (name : Text) (pairs : List (Key × Datum)) : Except Issue (List Datum) :=
  match given? name pairs with
  | none => .ok []
  | some d => d.elements.mapError .notIterable

/-- The family that a slot names. -/
def parseSlot (stem : Text) (d : Datum) : Except Issue SuffixFamily :=
  match d with
  | .text s =>
    match SuffixFamily.ofName? s with
    | some f => .ok f
    | none => .error (.problem (.unknownSlot stem (Text.quote s)))
  | d =>
    match d.written with
    | .ok w => .error (.problem (.unknownSlot stem w))
    | .error e => .error (.number e)

/-- The slots of a record: one family by name, or several, none twice. -/
def parseSlots (stem : Text) (pairs : List (Key × Datum)) : Except Issue (List SuffixFamily) := do
  let names ←
    match given? "suffixes" pairs with
    | some (.text s) => pure [.text s]
    | _ => listed "suffixes" pairs
  let slots ← names.mapM (parseSlot stem)
  if slots.Nodup then return slots else throw (.problem (.repeatedSlot stem))

/-- The entries of one record, the one of its stem and those of its aliases. A text alone is the
category. Unless it is said, a stem without slots is a name by itself and one with slots is not. -/
def parseRecord (stem : Text) (d : Datum) : Except Issue (List (Text × Entry)) := do
  let pairs := match d with
    | .text s => [(.text "category", .text s)]
    | .map pairs => pairs
    | _ => []
  match Datum.lookup? "category" pairs with
  | none => throw (.problem (.missingCategory stem))
  | some named =>
    let suffixes ← parseSlots stem pairs
    let category ← parseCategory stem named
    let bare := match Datum.lookup? "bare" pairs with
      | some b => b.truthy
      | none => suffixes.isEmpty
    let sampled ←
      match Datum.lookup? "sampled" pairs with
      | none | some .null => pure none
      | some s => (parseCategory stem s).map some
    let aliases ← (← listed "aliases" pairs).mapM textOf
    return (stem :: aliases).map fun name => (name, ⟨name, category, suffixes, bare, sampled⟩)

/-! ### Whole catalogs -/

/-- Stores entries one by one; one that contradicts a stored entry stops the load. -/
def store : List (Text × Entry) → Catalog → Catalog × Except Issue Unit
  | [], c => (c, .ok ())
  | (name, entry) :: rest, c =>
    if (c.get? name).any (· ≠ entry) then (c, .error (.problem (.conflict name)))
    else store rest { c with entries := c.entries.insert name entry }

/-- Adds the families of suffix tokens, each replacing the one that was there. -/
def loadFamilies : List (Key × Datum) → Catalog → Catalog × Except Issue Unit
  | [], c => (c, .ok ())
  | (key, tokens) :: rest, c =>
    let family : Except Issue SuffixFamily :=
      match key with
      | .text s =>
        match SuffixFamily.ofName? s with
        | some f => .ok f
        | none => .error (.problem (.unknownFamily (Text.quote s)))
      | key =>
        match Datum.keyWritten key with
        | .ok w => .error (.problem (.unknownFamily w))
        | .error e => .error (.number e)
    match family with
    | .error e => (c, .error e)
    | .ok f =>
      match parseTokens f tokens with
      | .error e => (c, .error e)
      | .ok read => loadFamilies rest { c with tokens := c.tokens.set f read }

/-- Adds records one by one. -/
def loadRecords : List (Key × Datum) → Catalog → Catalog × Except Issue Unit
  | [], c => (c, .ok ())
  | (key, record) :: rest, c =>
    let entries := do
      let stem ← textOf key.toDatum
      parseRecord stem record
    match entries with
    | .error e => (c, .error e)
    | .ok entries =>
      match store entries c with
      | (c, .error e) => (c, .error e)
      | (c, .ok ()) => loadRecords rest c

/-- The pairs of an optional mapping. -/
def section? (name : Text) (pairs : List (Key × Datum)) (problem : Problem) :
    Except Issue (List (Key × Datum)) :=
  match given? name pairs with
  | none => .ok []
  | some (.map inner) => .ok inner
  | some _ => .error (.problem problem)

/-- The version that the data states. -/
def parseVersion (pairs : List (Key × Datum)) : Except Issue (Option Text) :=
  match Datum.lookup? "version" pairs with
  | none | some .null => .ok none
  | some d => (textOf d).map some

/-- Adds what a mapping says: the version, then the suffix tokens, then the records. -/
def loadMapping (pairs : List (Key × Datum)) (c : Catalog) : Catalog × Except Issue Unit :=
  match parseVersion pairs with
  | .error e => (c, .error e)
  | .ok version =>
    let c := { c with version }
    match section? "suffixes" pairs .suffixesNotMapping with
    | .error e => (c, .error e)
    | .ok families =>
      match loadFamilies families c with
      | (c, .error e) => (c, .error e)
      | (c, .ok ()) =>
        match section? "builtins" pairs .builtinsNotMapping with
        | .error e => (c, .error e)
        | .ok records => loadRecords records c

/-- Adds the contents of a data value, with the catalog that is reached also when that fails. -/
def load (c : Catalog) (data : Datum) (source : Text) : Catalog × Except LoadError Unit :=
  let (c, result) :=
    match data with
    | .map pairs => loadMapping pairs c
    | _ => (c, .error (.problem .notMapping))
  (c, result.mapError fun issue => ⟨source, issue⟩)

/-- What a catalog loaded from data alone is called in messages. -/
def dataSource : String := "<dict>"

end KernelCalls.Catalog
