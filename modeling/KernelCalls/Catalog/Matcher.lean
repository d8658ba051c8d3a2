import KernelCalls.Catalog.Basic
import KernelCalls.CallInfo

namespace KernelCalls

/-!
# Matching names against a catalog

A name is the stem of an entry, or a stem followed by suffix tokens that fill slots of its entry in
order. A whole stem wins over a split, and of the splits the longest stem wins.

* `Match` : how a name was matched
* `Matcher` : the suffix tokens of a catalog, the longest first, and the length of its longest stem
* `Matcher.readTail` : the tokens that make up a tail
* `Matcher.classify` : the match of a name
-/

/-- A suffix token that was met in a name. -/
structure SuffixToken where
  family : SuffixFamily
  text : Text
  value : SuffixValue
  deriving DecidableEq, Repr

/-- The token in a line. -/
def SuffixToken.shown (t : SuffixToken) : Text :=
  " +" ++ t.family.name ++ "(" ++ t.text ++ ")"

/-- How a name was matched: by an entry as a whole, or by a stem and tokens. -/
structure Match where
  entry : Entry
  stem : Text
  tokens : List SuffixToken
  exact : Bool
  deriving DecidableEq, Repr

namespace Match

/-- The token of a family, if the name has one. -/
def token? (m : Match) (family : SuffixFamily) : Option SuffixToken :=
  m.tokens.find? (·.family == family)

/-- The match in one line. -/
def text (m : Match) : Text :=
  m.stem ++ m.tokens.flatMap SuffixToken.shown ++ " -> " ++ m.entry.category.name

/-- The modifiers that the tokens stand for. -/
def variant (m : Match) : Variant where
  format := match m.token? .format with
    | some ⟨_, _, .pixels f⟩ => some f
    | _ => none
  width := match m.token? .width with
    | some ⟨_, _, .lanes n⟩ => n
    | _ => 0
  saturate := (m.token? .saturation).isSome
  rounding := match m.token? .rounding with
    | some ⟨_, _, .mode r⟩ => r
    | _ => .standard

end Match

/-- What is fixed of a catalog when matching begins: its suffix tokens, the longest first, and the
length of its longest stem. Entries are looked up in the catalog itself, as it is at the time. -/
structure Matcher where
  tokens : TokenTable
  longestStem : Nat
  deriving DecidableEq, Repr

namespace Matcher

/-- Tokens with the longest first, those of one length as they were. -/
def longestFirst (tokens : Table Text SuffixValue) : Table Text SuffixValue :=
  tokens.mergeSort fun a b => b.1.length ≤ a.1.length

/-- The matcher of a catalog as it is now. -/
def ofCatalog (c : Catalog) : Matcher where
  tokens := c.tokens.map longestFirst
  longestStem := (c.entries.map fun e => e.1.length).foldl max 0

/-- Fills slots in order from the front of a tail. A slot takes the first token that the tail starts
with and stays empty if there is none. Gives the tokens taken and what is left. -/
def consume (m : Matcher) : List SuffixFamily → Text → List SuffixToken × Text
  | [], tail => ([], tail)
  | family :: slots, tail =>
    match List.find? (fun t => t.1.isPrefixOf tail) (m.tokens.get family) with
    | some (text, value) =>
      let (tokens, rest) := m.consume slots (tail.drop text.length)
      (⟨family, text, value⟩ :: tokens, rest)
    | none => m.consume slots tail

/-- The tokens that make up a tail, at least one of them. -/
def readTail (m : Matcher) (entry : Entry) (tail : Text) : Option (List SuffixToken) :=
  let (tokens, rest) := m.consume entry.suffixes tail
  if tokens.isEmpty || !rest.isEmpty then none else some tokens

/-- The match of a name by a stem of the given length. -/
def matchAt (m : Matcher) (c : Catalog) (name : Text) (n : Nat) : Option Match :=
  match c.get? (name.take n) with
  | none => none
  | some entry =>
    if entry.suffixes.isEmpty then none
    else (m.readTail entry (name.drop n)).map fun tokens => ⟨entry, entry.stem, tokens, false⟩

/-- The match of a name by the longest stem of at most the given length. -/
def matchUpTo (m : Matcher) (c : Catalog) (name : Text) : Nat → Option Match
  | 0 => none
  | n + 1 =>
    match m.matchAt c name (n + 1) with
    | some found => some found
    | none => m.matchUpTo c name n

/-- The match of a name: the entry of the whole name if that is a name by itself, otherwise the
longest stem whose slots take the rest. -/
def classify (m : Matcher) (c : Catalog) (name : Text) : Option Match :=
  match (c.get? name).filter (·.bare) with
  | some entry => some ⟨entry, name, [], true⟩
  | none =>
    m.matchUpTo c name (min (name.length - 1) m.longestStem)

end Matcher

end KernelCalls
