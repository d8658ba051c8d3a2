import KernelCalls.Category
import KernelCalls.ElementKind
import KernelCalls.Table

namespace KernelCalls

/-!
# Catalogs

A catalog lists the stems of recognised names. A stem has ordered optional slots for suffixes, and
each slot takes the tokens of one family.

* `SuffixFamily`, `SuffixValue`, `TokenTable` : the suffix tokens and what they stand for
* `Entry` : one stem
* `Catalog` : a version, the entries by stem, and the tokens
-/

/-- The families of suffix tokens. -/
inductive SuffixFamily where
  | width
  | format
  | saturation
  | rounding
  deriving DecidableEq, Repr

namespace SuffixFamily

/-- All families, in order. -/
def all : List SuffixFamily := [.width, .format, .saturation, .rounding]

/-- The name of a family. -/
def name : SuffixFamily → String
  | .width => "width"
  | .format => "format"
  | .saturation => "saturation"
  | .rounding => "rounding"

/-- The family of exactly this name. -/
def ofName? (text : Text) : Option SuffixFamily :=
  all.find? fun f => Text.ofString f.name == text

end SuffixFamily

/-- What a suffix token stands for. -/
inductive SuffixValue where
  | lanes (n : Int)
  | pixels (format : PixelFormat)
  | saturate
  | mode (rounding : RoundingMode)
  deriving DecidableEq, Repr

namespace SuffixValue

/-- The value is one of the kind that a family has. -/
def Fits : SuffixFamily → SuffixValue → Prop
  | .width, .lanes _ => True
  | .format, .pixels _ => True
  | .saturation, .saturate => True
  | .rounding, .mode _ => True
  | _, _ => False

end SuffixValue

/-- The tokens of every family, with what they stand for. -/
structure TokenTable where
  width : Table Text SuffixValue
  format : Table Text SuffixValue
  saturation : Table Text SuffixValue
  rounding : Table Text SuffixValue
  deriving DecidableEq, Repr

namespace TokenTable

/-- No tokens. -/
def empty : TokenTable := ⟨[], [], [], []⟩

/-- The tokens of a family. -/
def get (t : TokenTable) : SuffixFamily → Table Text SuffixValue
  | .width => t.width
  | .format => t.format
  | .saturation => t.saturation
  | .rounding => t.rounding

/-- Replaces the tokens of a family. -/
def set (t : TokenTable) (family : SuffixFamily) (tokens : Table Text SuffixValue) : TokenTable :=
  match family with
  | .width => { t with width := tokens }
  | .format => { t with format := tokens }
  | .saturation => { t with saturation := tokens }
  | .rounding => { t with rounding := tokens }

/-- Changes the tokens of every family in the same way. -/
def map (f : Table Text SuffixValue → Table Text SuffixValue) (t : TokenTable) : TokenTable :=
  ⟨f t.width, f t.format, f t.saturation, f t.rounding⟩

/-- A function on all families acts on each of them. -/
@[simp] theorem get_map (f : Table Text SuffixValue → Table Text SuffixValue) (t : TokenTable)
    (family : SuffixFamily) : (t.map f).get family = f (t.get family) := by
  cases family <;> rfl

/-- Replacing one family leaves the others. -/
theorem get_set (t : TokenTable) (family other : SuffixFamily)
    (tokens : Table Text SuffixValue) :
    (t.set family tokens).get other = if family = other then tokens else t.get other := by
  cases family <;> cases other <;> rfl

end TokenTable

/-- One stem of the catalog. -/
structure Entry where
  stem : Text
  category : Category
  /-- The slots for suffixes, in order; each may stay empty. -/
  suffixes : List SuffixFamily
  /-- The stem alone is a name. -/
  bare : Bool
  /-- The category of a call whose second argument is a sampler, where that matters. -/
  sampled : Option Category
  deriving DecidableEq, Repr

/-- The entry in one line. -/
def Entry.text (e : Entry) : Text :=
  let slots := String.join (e.suffixes.map fun s => "[" ++ s.name ++ "]")
  e.stem ++ slots ++ " -> " ++ e.category.name

/-- A table of stems and suffix tokens. -/
structure Catalog where
  version : Option Text
  entries : Table Text Entry
  tokens : TokenTable
  deriving DecidableEq, Repr

namespace Catalog

/-- The catalog without stems and tokens. -/
def empty : Catalog := ⟨none, [], .empty⟩

/-- The entry of a stem. -/
def get? (c : Catalog) (stem : Text) : Option Entry := c.entries.find? stem

/-- The number of stems. -/
def size (c : Catalog) : Nat := c.entries.length

/-- Texts in the order of their code points. -/
def sortTexts (texts : List Text) : List Text := texts.mergeSort Text.precedes

/-- The stems of a category in order, those included that have it when called with a sampler. -/
def stemsOf (c : Catalog) (category : Category) : List Text :=
  let inCategory := fun e : Entry => e.category == category || e.sampled == some category
  sortTexts (((c.entries.map (·.2)).filter inCategory).map (·.stem))

/-- All entries, by the number of their category and then by stem. -/
def sortedEntries (c : Catalog) : List Entry :=
  (c.entries.map (·.2)).mergeSort fun a b =>
    a.category.code < b.category.code ||
      (a.category.code == b.category.code && a.stem.precedes b.stem)

end Catalog

end KernelCalls
