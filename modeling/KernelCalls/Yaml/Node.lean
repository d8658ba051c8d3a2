import KernelCalls.Yaml.Token

namespace KernelCalls.Yaml

/-!
# YAML nodes

The tree that the tokens of a YAML text spell, before its texts are taken for numbers and the like.
Tokens are asked for one by one, so that an error behind the first token that is out of place is not
met.

* `Node` : a text, a list or a mapping
* `Node.ofTokens` : the tree of a single document
-/

/-- A node of the tree. -/
inductive Node where
  /-- A text without quotes. -/
  | plain (cs : List Char)
  /-- A text in quotes. -/
  | quoted (t : Text)
  | list (items : List Node)
  | map (pairs : List (Node × Node))
  deriving Repr, Inhabited

namespace Node

/-- The node is a mark that stands without quotes. -/
def isMark (mark : String) : Node → Bool
  | .plain cs => cs == mark.toList
  | _ => false

/-- The node where nothing is written. -/
def absent : Node := .plain []

/-- A node with the tokens after it. -/
abbrev Parse := Except Error (Node × List Token)

/-- Another token is needed than the next one; after the last token `stop` is the error. -/
def refuse {α : Type} (stop : Error) (ts : List Token) : Except Error α :=
  if ts.isEmpty then .error stop else malformed

/-- The token ends an item of a block. -/
def endsItem : Option Token → Bool
  | some .item => true
  | some .blockEnd => true
  | _ => false

/-- The token ends a key or a value of a block. -/
def endsMember : Option Token → Bool
  | some .key => true
  | some .value => true
  | some .blockEnd => true
  | _ => false

/-- The token ends a key or a value between brackets. -/
def endsFlowMember (close : Token) (t : Option Token) : Bool :=
  t == some .comma || t == some close

mutual

/-- A node at the head of the tokens. Blocks are possible where `block` holds, and a list that is
not indented where `flush` holds. -/
def node (stop : Error) (block flush : Bool) : Nat → List Token → Parse
  | 0, _ => malformed
  | fuel + 1, ts =>
    match ts with
    | .plain cs :: rest => .ok (.plain cs, rest)
    | .quoted t :: rest => .ok (.quoted t, rest)
    | .listOpen :: rest => flowItems stop fuel rest true []
    | .mapOpen :: rest => flowMembers stop fuel rest true []
    | .item :: _ => if flush then flushItems stop fuel ts [] else malformed
    | .sequenceStart :: rest => if block then blockItems stop fuel rest [] else malformed
    | .mappingStart :: rest => if block then blockMembers stop fuel rest [] else malformed
    | ts => refuse stop ts

/-- The items of an indented list. -/
def blockItems (stop : Error) : Nat → List Token → List Node → Parse
  | 0, _, _ => malformed
  | fuel + 1, ts, read =>
    match ts with
    | .blockEnd :: rest => .ok (.list read, rest)
    | .item :: rest =>
      if endsItem rest.head? then blockItems stop fuel rest (read ++ [absent])
      else do
        let (n, rest) ← node stop true false fuel rest
        blockItems stop fuel rest (read ++ [n])
    | ts => refuse stop ts

/-- The items of a list that is not indented under its key. -/
def flushItems (stop : Error) : Nat → List Token → List Node → Parse
  | 0, _, _ => malformed
  | fuel + 1, ts, read =>
    match ts with
    | .item :: rest =>
      if endsItem rest.head? || endsMember rest.head? then
        flushItems stop fuel rest (read ++ [absent])
      else do
        let (n, rest) ← node stop true false fuel rest
        flushItems stop fuel rest (read ++ [n])
    | _ => .ok (.list read, ts)

/-- A key or a value of an indented mapping. -/
def blockMember (stop : Error) : Nat → List Token → Parse
  | 0, _ => malformed
  | fuel + 1, ts => if endsMember ts.head? then .ok (absent, ts) else node stop true true fuel ts

/-- The pairs of an indented mapping. -/
def blockMembers (stop : Error) : Nat → List Token → List (Node × Node) → Parse
  | 0, _, _ => malformed
  | fuel + 1, ts, read =>
    match ts with
    | .blockEnd :: rest => .ok (.map read, rest)
    | .key :: rest => do
      let (k, rest) ← blockMember stop fuel rest
      match rest with
      | .value :: rest => do
        let (v, rest) ← blockMember stop fuel rest
        blockMembers stop fuel rest (read ++ [(k, v)])
      | rest => blockMembers stop fuel rest (read ++ [(k, absent)])
    | ts => refuse stop ts

/-- A key or a value between brackets. -/
def flowMember (stop : Error) (close : Token) (isKey : Bool) : Nat → List Token → Parse
  | 0, _ => malformed
  | fuel + 1, ts =>
    if endsFlowMember close ts.head? || (isKey && ts.head? == some .value) then .ok (absent, ts)
    else node stop false false fuel ts

/-- A marked pair between brackets. -/
def flowPair (stop : Error) (close : Token) :
    Nat → List Token → Except Error ((Node × Node) × List Token)
  | 0, _ => malformed
  | fuel + 1, ts => do
    let (k, rest) ← flowMember stop close true fuel ts
    match rest with
    | .value :: rest => do
      let (v, rest) ← flowMember stop close false fuel rest
      return ((k, v), rest)
    | rest => return ((k, absent), rest)

/-- The items of a list in brackets; a pair among them is a mapping of its own. -/
def flowItems (stop : Error) : Nat → List Token → Bool → List Node → Parse
  | 0, _, _, _ => malformed
  | fuel + 1, ts, first, read =>
    match ts, first with
    | .listClose :: rest, _ => .ok (.list read, rest)
    | .comma :: rest, false =>
      match rest with
      | .listClose :: rest => .ok (.list read, rest)
      | rest => flowItem stop fuel rest read
    | ts, true => flowItem stop fuel ts read
    | ts, false => refuse stop ts

/-- One item of a list in brackets, and the items after it. -/
def flowItem (stop : Error) : Nat → List Token → List Node → Parse
  | 0, _, _ => malformed
  | fuel + 1, ts, read =>
    match ts with
    | .key :: rest => do
      let (p, rest) ← flowPair stop .listClose fuel rest
      flowItems stop fuel rest false (read ++ [.map [p]])
    | ts => do
      let (n, rest) ← node stop false false fuel ts
      flowItems stop fuel rest false (read ++ [n])

/-- The pairs of a mapping in brackets; a text among them is a key without value. -/
def flowMembers (stop : Error) : Nat → List Token → Bool → List (Node × Node) → Parse
  | 0, _, _, _ => malformed
  | fuel + 1, ts, first, read =>
    match ts, first with
    | .mapClose :: rest, _ => .ok (.map read, rest)
    | .comma :: rest, false =>
      match rest with
      | .mapClose :: rest => .ok (.map read, rest)
      | rest => flowEntry stop fuel rest read
    | ts, true => flowEntry stop fuel ts read
    | ts, false => refuse stop ts

/-- One pair of a mapping in brackets, and the pairs after it. -/
def flowEntry (stop : Error) : Nat → List Token → List (Node × Node) → Parse
  | 0, _, _ => malformed
  | fuel + 1, ts, read =>
    match ts with
    | .key :: rest => do
      let (p, rest) ← flowPair stop .mapClose fuel rest
      flowMembers stop fuel rest false (read ++ [p])
    | ts => do
      let (n, rest) ← node stop false false fuel ts
      flowMembers stop fuel rest false (read ++ [(n, absent)])

end

/-- The tree, if nothing but ends of documents follows it. -/
def alone (stop : Option Error) (n : Node) (rest : List Token) : Except Error Node :=
  match rest.dropWhile (· == .documentEnd), stop with
  | [], none => .ok n
  | [], some e => .error e
  | _, _ => malformed

/-- The tree of what a document holds, with nothing after it. -/
def ofContent (stop : Option Error) (ts : List Token) : Except Error Node := do
  let (n, rest) ← node (stop.getD .malformed) true false (4 * ts.length + 4) ts
  alone stop n rest

/-- The tree of a single document; nothing for a text without one. -/
def ofTokens (ts : Tokens) : Except Error Node :=
  match ts.read with
  | [] => alone ts.stop absent []
  | .documentStart :: rest =>
    match rest.head? with
    | none | some .documentStart | some .documentEnd => alone ts.stop absent rest
    | _ => ofContent ts.stop rest
  | read => ofContent ts.stop read

end Node

end KernelCalls.Yaml
