import TypeSchema.Pattern.Property

/-!
# Reading regular expressions

The grammar of regular expressions: alternatives, repetitions, groups, flags, classes with set
operations and assertions; look-around and back-references are refused.  Flags hold from where they
are set to the end of the enclosing group.  An expression is also refused when it nests too deeply,
or when writing its repetitions out would take too many states.
-/

set_option autoImplicit false

namespace TypeSchema.Pattern

open TypeSchema.Text

/-- The flags that hold at a place of an expression. -/
structure Flags where
  /-- `i`: letters match in either case. -/
  ignoreCase : Bool := false
  /-- `m`: line assertions hold at every line. -/
  multiLine : Bool := false
  /-- `s`: the point matches line ends too. -/
  dotAll : Bool := false
  /-- `u`: classes go beyond ASCII. -/
  unicode : Bool := true
  /-- `R`: a carriage return ends a line too. -/
  crlf : Bool := false
  /-- `x`: blanks and comments are skipped. -/
  verbose : Bool := false

/-- How deep expressions may nest. -/
def maxDepth : Nat := 250

/-- How many states an expression may have when its repetitions are written out. -/
def maxStates : Nat := 327680

/-- An expression with its nesting depth and its number of states. -/
structure Node where
  regex : Regex
  depth : Nat := 0
  states : Nat := 1

/-- The part of an expression that is read: the flags that hold now, the names of groups so far, and
the text that remains. -/
structure Reading where
  flags : Flags
  names : List (List Char)
  rest : List Char

namespace Reading

/-- Goes on at the text. -/
def resume (r : Reading) (rest : List Char) : Reading :=
  { r with rest }

end Reading

/-- Skips blanks and comments; `comment` says whether a comment is open. -/
def skipLayout (comment : Bool) : List Char → List Char
  | [] => []
  | c :: rest =>
    if comment then skipLayout (c != '\n') rest
    else if isBlank c then skipLayout false rest
    else if c = '#' then skipLayout true rest
    else c :: rest

/-- Skips blanks and comments if the flags say so. -/
def skipVerbose (flags : Flags) (cs : List Char) : List Char :=
  if flags.verbose then skipLayout false cs else cs

/-! ## Numbers and escapes -/

/-- A number with blanks around it. -/
def readCount (cs : List Char) : Option Nat × List Char :=
  let digits := (cs.dropWhile isBlank).takeWhile Char.isDigit
  let rest := ((cs.dropWhile isBlank).dropWhile Char.isDigit).dropWhile isBlank
  let value := (numeral? 10 digits).bind fun n => if n < UInt32.size then some n else none
  (value, rest)

/-- What an escape stands for. -/
inductive Escaped
  | literal (c : Char)
  /-- A character given by two hexadecimal digits. -/
  | byte (c : Char)
  | charClass (chars : CharSet)
  | look (condition : Look)

/-- The character given by hexadecimal digits, in braces or a fixed number of them. -/
def readHex (digits : Nat) (cs : List Char) : Option (Char × List Char) :=
  match cs with
  | '\x7b' :: inner =>
    match inner.dropWhile (· ≠ '\x7d') with
    | _ :: rest => ((numeral? 16 (inner.takeWhile (· ≠ '\x7d'))).bind character?).map (·, rest)
    | [] => none
  | _ =>
    let hex := cs.take digits
    if hex.length < digits then none
    else ((numeral? 16 hex).bind character?).map (·, cs.drop digits)

/-- The class named after `\p`: one letter, or a name in braces. -/
def readProperty (flags : Flags) (negated : Bool) (cs : List Char) :
    Option (CharSet × List Char) :=
  let finish (name rest : List Char) : Option (CharSet × List Char) :=
    if !flags.unicode then none
    else
      let (inverse, name) := match name with
        | '^' :: more => (true, more)
        | more => (false, more)
      (property? name).map fun chars =>
        let chars := if flags.ignoreCase then .folded chars else chars
        (if negated != inverse then .complement chars else chars, rest)
  match cs with
  | '\x7b' :: inner =>
    match inner.dropWhile (· ≠ '\x7d') with
    | _ :: rest => finish (inner.takeWhile (· ≠ '\x7d')) rest
    | [] => none
  | c :: rest => if c = '\\' then none else finish [c] rest
  | [] => none

/-- The word boundary after `\b`, which may be qualified in braces. -/
def readBoundary (flags : Flags) (cs : List Char) : Option (Look × List Char) :=
  let plain := (Look.wordBoundary flags.unicode, cs)
  match cs with
  | '\x7b' :: inner =>
    let isNameCharacter (c : Char) : Bool := c.isAlpha || c == '-'
    let name := inner.takeWhile isNameCharacter
    let behind := inner.dropWhile isNameCharacter
    if name = [] then (if inner = [] then none else some plain)
    else match behind with
      | '\x7d' :: rest =>
        match String.ofList name with
        | "start" => some (.wordStart flags.unicode, rest)
        | "end" => some (.wordEnd flags.unicode, rest)
        | "start-half" => some (.wordStartHalf flags.unicode, rest)
        | "end-half" => some (.wordEndHalf flags.unicode, rest)
        | _ => none
      | _ => none
  | _ => some plain

/-- Whether a backslash before the ASCII character makes it stand for itself. -/
def isEscapable (c : Char) : Bool :=
  c.toNat < 0x80 && !c.isAlphanum && c != '<' && c != '>'

/-- Reads an escape after its backslash. -/
def readEscape (flags : Flags) (cs : List Char) : Option (Escaped × List Char) :=
  match cs with
  | [] => none
  | c :: rest =>
    let negative (chars : CharSet) : CharSet := .complement chars
    match c with
    | 'd' => some (.charClass (digitSet flags.unicode), rest)
    | 's' => some (.charClass (spaceSet flags.unicode), rest)
    | 'w' => some (.charClass (wordSet flags.unicode), rest)
    | 'D' => some (.charClass (negative (digitSet flags.unicode)), rest)
    | 'S' => some (.charClass (negative (spaceSet flags.unicode)), rest)
    | 'W' => some (.charClass (negative (wordSet flags.unicode)), rest)
    | 'p' => (readProperty flags false (skipVerbose flags rest)).map fun (s, r) => (.charClass s, r)
    | 'P' => (readProperty flags true (skipVerbose flags rest)).map fun (s, r) => (.charClass s, r)
    | 'x' => (readHex 2 (skipVerbose flags rest)).map fun (x, r) =>
        (if rest.head? = some '\x7b' then .literal x else .byte x, r)
    | 'u' => (readHex 4 (skipVerbose flags rest)).map fun (x, r) => (.literal x, r)
    | 'U' => (readHex 8 (skipVerbose flags rest)).map fun (x, r) => (.literal x, r)
    | 'a' => some (.literal '\x07', rest)
    | 'f' => some (.literal '\x0c', rest)
    | 't' => some (.literal '\t', rest)
    | 'n' => some (.literal '\n', rest)
    | 'r' => some (.literal '\r', rest)
    | 'v' => some (.literal '\x0b', rest)
    | 'A' => some (.look .textStart, rest)
    | 'z' => some (.look .textEnd, rest)
    | 'b' => (readBoundary flags rest).map fun (l, r) => (.look l, r)
    | 'B' => some (.look (.noWordBoundary flags.unicode), rest)
    | '<' => some (.look (.wordStart flags.unicode), rest)
    | '>' => some (.look (.wordEnd flags.unicode), rest)
    | other => if isEscapable other then some (.literal other, rest) else none

/-! ## Classes -/

/-- The class with the characters added that differ in case, if the flags say so. -/
def withCase (flags : Flags) (chars : CharSet) : CharSet :=
  if flags.ignoreCase then
    if flags.unicode then .folded chars
    else .union chars (.inter (.folded chars) (.ranges #[(0x00, 0x7f)]))
  else chars

/-- The ASCII class in brackets and colons after an opening bracket. -/
def readAsciiClass (cs : List Char) : Option (CharSet × List Char) :=
  match cs with
  | ':' :: inner =>
    let (negated, inner) := match inner with
      | '^' :: more => (true, more)
      | more => (false, more)
    match inner.dropWhile (· ≠ ':') with
    | ':' :: ']' :: rest =>
      (asciiClass? (String.ofList (inner.takeWhile (· ≠ ':')))).map fun chars =>
        (if negated then .complement chars else chars, rest)
    | _ => none
  | _ => none

/-- A character or class as an item of a bracketed class. -/
inductive ClassItem
  | literal (c : Char)
  | charClass (chars : CharSet)

/-- Reads one item of a bracketed class. -/
def readClassItem (flags : Flags) (cs : List Char) : Option (ClassItem × List Char) :=
  match cs with
  | [] => none
  | '\\' :: rest =>
    match readEscape flags rest with
    | some (.literal c, r) => if !flags.unicode && c.toNat ≥ 0x80 then none else some (.literal c, r)
    | some (.byte c, r) => if !flags.unicode && c.toNat ≥ 0x80 then none else some (.literal c, r)
    | some (.charClass chars, r) => some (.charClass chars, r)
    | _ => none
  | c :: rest => if !flags.unicode && c.toNat ≥ 0x80 then none else some (.literal c, rest)

/-- Reads an item or a range of a bracketed class. -/
def readClassRange (flags : Flags) (cs : List Char) : Option (CharSet × List Char) := do
  let (first, afterFirst) ← readClassItem flags cs
  let rest := skipVerbose flags afterFirst
  let alone : CharSet := match first with
    | .literal c => .single c
    | .charClass chars => chars
  match rest with
  | [] => none
  | '-' :: more =>
    let next := skipVerbose flags more
    if next.head? = some ']' ∨ next.head? = some '-' then return (alone, rest)
    else
      let (second, afterSecond) ← readClassItem flags next
      match first, second with
      | .literal low, .literal high =>
        if low.toNat ≤ high.toNat then return (.ranges #[(low.toNat, high.toNat)], afterSecond)
        else none
      | _, _ => none
  | _ => return (alone, rest)

/-- The operations between the sides of a bracketed class. -/
inductive ClassOperation
  | intersection
  | difference
  | symmetricDifference

/-- Applies an operation; sides are compared without case if the flags say so. -/
def ClassOperation.apply (flags : Flags) (operation : ClassOperation) (a b : CharSet) : CharSet :=
  let a := withCase flags a
  let b := withCase flags b
  match operation with
  | .intersection => .inter a b
  | .difference => a.without b
  | .symmetricDifference => .union (a.without b) (b.without a)

/-- The sides of a bracketed class so far: the left one with its operation, and the current one. -/
structure ClassSides where
  left : Option (CharSet × ClassOperation) := none
  current : CharSet := .empty
  depth : Nat := 0

namespace ClassSides

/-- Adds characters to the current side. -/
def add (sides : ClassSides) (chars : CharSet) (depth : Nat := 0) : ClassSides :=
  { sides with current := .union sides.current chars, depth := max sides.depth depth }

/-- Both sides together. -/
def close (flags : Flags) (sides : ClassSides) : CharSet :=
  match sides.left with
  | some (left, operation) => operation.apply flags left sides.current
  | none => sides.current

/-- Begins the next side. -/
def operate (flags : Flags) (sides : ClassSides) (operation : ClassOperation) : ClassSides :=
  { left := some (sides.close flags, operation), current := .empty, depth := sides.depth + 1 }

end ClassSides

/-- The beginning of a class after its bracket: whether it is negated, and the hyphens or the closing
bracket that stand for themselves there. -/
def openClass (flags : Flags) (cs : List Char) : Bool × ClassSides × List Char :=
  let (negated, cs) := match skipVerbose flags cs with
    | '^' :: rest => (true, skipVerbose flags rest)
    | rest => (false, rest)
  let hyphens := cs.takeWhile (· = '-')
  let behind := skipVerbose flags (cs.dropWhile (· = '-'))
  if hyphens ≠ [] then (negated, ({} : ClassSides).add (.single '-'), behind)
  else match behind with
    | ']' :: rest => (negated, ({} : ClassSides).add (.single ']'), rest)
    | _ => (negated, {}, behind)

/-- Reads a bracketed class after its opening bracket; also its depth. -/
def readClass (flags : Flags) : Nat → Bool → ClassSides → List Char →
    Option (CharSet × Nat × List Char)
  | 0, _, _, _ => none
  | fuel + 1, negated, sides, cs =>
    match skipVerbose flags cs with
    | [] => none
    | '[' :: rest =>
      match readAsciiClass rest with
      | some (chars, behind) => readClass flags fuel negated (sides.add chars) behind
      | none =>
        let (innerNegated, innerSides, inner) := openClass flags rest
        match readClass flags fuel innerNegated innerSides inner with
        | some (chars, depth, behind) =>
          readClass flags fuel negated (sides.add chars (depth + 1)) behind
        | none => none
    | ']' :: rest =>
      let chars := withCase flags (sides.close flags)
      some (if negated then .complement chars else chars, sides.depth, rest)
    | '&' :: '&' :: rest => readClass flags fuel negated (sides.operate flags .intersection) rest
    | '-' :: '-' :: rest => readClass flags fuel negated (sides.operate flags .difference) rest
    | '~' :: '~' :: rest =>
      readClass flags fuel negated (sides.operate flags .symmetricDifference) rest
    | rest =>
      match readClassRange flags rest with
      | some (chars, behind) => readClass flags fuel negated (sides.add chars) behind
      | none => none

/-! ## Flags and groups -/

/-- Sets the flag with the letter. -/
def Flags.set? (flags : Flags) (value : Bool) : Char → Option Flags
  | 'i' => some { flags with ignoreCase := value }
  | 'm' => some { flags with multiLine := value }
  | 's' => some { flags with dotAll := value }
  | 'U' => some flags
  | 'u' => some { flags with unicode := value }
  | 'R' => some { flags with crlf := value }
  | 'x' => some { flags with verbose := value }
  | _ => none

/-- Reads flags up to the `:` or `)` after them.  No letter and no minus stands twice, and a minus is
followed by a letter. -/
def readFlags (seen : List Char) (value : Bool) (flags : Flags) :
    List Char → Option (Flags × List Char)
  | [] => none
  | c :: rest =>
    if c = ':' ∨ c = ')' then
      if seen.head? = some '-' then none else some (flags, c :: rest)
    else if seen.contains c then none
    else if c = '-' then readFlags ('-' :: seen) false flags rest
    else match flags.set? value c with
      | some next => readFlags (c :: seen) value next rest
      | none => none

/-- Reads the name of a group up to the `>` after it. -/
def readGroupName (cs : List Char) : Option (List Char × List Char) :=
  let isFirst (c : Char) : Bool := c == '_' || isAlphabetic c
  let isNext (c : Char) : Bool :=
    c == '_' || c == '.' || c == '[' || c == ']' || isAlphanumeric c
  match cs with
  | first :: _ =>
    if isFirst first then
      match cs.dropWhile isNext with
      | '>' :: rest => some (cs.takeWhile isNext, rest)
      | _ => none
    else none
  | [] => none

/-- What stands at an opening parenthesis. -/
inductive Opening
  /-- A group with its flags. -/
  | group (flags : Flags) (rest : Reading)
  /-- Flags for the rest of the enclosing group. -/
  | flags (rest : Reading)

/-- Reads what follows an opening parenthesis. -/
def readOpening (r : Reading) : Option Opening :=
  let named (cs : List Char) : Option Opening :=
    match readGroupName cs with
    | some (name, rest) =>
      if r.names.contains name then none
      else some (.group r.flags { r with names := name :: r.names, rest })
    | none => none
  match skipVerbose r.flags r.rest with
  | '?' :: '=' :: _ | '?' :: '!' :: _ | '?' :: '<' :: '=' :: _ | '?' :: '<' :: '!' :: _ => none
  | '?' :: 'P' :: '<' :: rest => named rest
  | '?' :: '<' :: rest => named rest
  | '?' :: rest =>
    match readFlags [] true r.flags rest with
    | some (flags, ':' :: behind) => some (.group flags { r with rest := behind })
    | some (flags, _ :: behind) =>
      if rest.head? = some ')' then none else some (.flags { r with flags, rest := behind })
    | _ => none
  | rest => some (.group r.flags { r with rest })

/-! ## Expressions -/

/-- An expression that matches one character of the class. -/
def classNode (chars : CharSet) (depth states : Nat) : Node :=
  ⟨.one chars, depth, states⟩

/-- An expression that matches one character. -/
def literalNode (flags : Flags) (c : Char) : Option Node :=
  if flags.ignoreCase && !flags.unicode && c.toNat ≥ 0x80 then none
  else some (classNode (withCase flags (.single c)) 0 c.utf8Size)

/-- The expression of the point. -/
def dotNode (flags : Flags) : Option Node :=
  if !flags.unicode then none
  else
    let ends : CharSet :=
      if flags.dotAll then .empty
      else if flags.crlf then .ranges #[(0x0a, 0x0a), (0x0d, 0x0d)]
      else .single '\n'
    some (classNode (.complement ends) 0 8)

/-- The class as an expression.  Without `u` a class may not go beyond ASCII. -/
def checkedClass (flags : Flags) (chars : CharSet) (depth : Nat) : Option Node :=
  if !flags.unicode && chars.hasCode 0x80 then none
  else some (classNode chars depth (if flags.unicode then 16 else 1))

/-- The expression an escape stands for. -/
def escapeNode (flags : Flags) : Escaped → Option Node
  | .literal c => literalNode flags c
  | .byte c => if !flags.unicode && c.toNat ≥ 0x80 then none else literalNode flags c
  | .charClass chars => checkedClass flags chars 0
  | .look condition => some ⟨.look condition, 0, 1⟩

/-- The expression of `^`. -/
def startNode (flags : Flags) : Node :=
  ⟨.look (if flags.multiLine then (if flags.crlf then .anyLineStart else .lineStart)
    else .textStart), 0, 1⟩

/-- The expression of `$`. -/
def endNode (flags : Flags) : Node :=
  ⟨.look (if flags.multiLine then (if flags.crlf then .anyLineEnd else .lineEnd)
    else .textEnd), 0, 1⟩

/-- A repeated expression. -/
def Node.repeated (node : Node) (least : Nat) (most : Option Nat) : Option Node :=
  let copies := max 1 ((most.getD (least + 1)))
  let result : Node := ⟨.repeat node.regex least most, node.depth + 1, node.states * copies + 1⟩
  if result.depth > maxDepth ∨ result.states > maxStates then none else some result

/-- Expressions one after the other, the last of them first.  Flags between them are `none`. -/
def sequence (items : List (Option Node)) : Node :=
  let nodes := items.reverse.filterMap id
  match items, nodes with
  | [_], [only] => only
  | _, _ =>
    nodes.foldr (fun node rest =>
      ⟨.seq node.regex rest.regex, max (node.depth + 1) rest.depth, node.states + rest.states⟩)
      ⟨.empty, 0, 0⟩

/-- Alternatives, the last of them first. -/
def alternatives (nodes : List Node) : Node :=
  match nodes with
  | [] => ⟨.empty, 0, 0⟩
  | [only] => only
  | last :: before =>
    before.foldl (fun rest node =>
      ⟨.alt node.regex rest.regex, max (node.depth + 1) rest.depth, node.states + rest.states + 1⟩)
      { last with depth := last.depth + 1 }

/-- Skips the mark that makes a repetition lazy. -/
def skipLazy : List Char → List Char
  | '?' :: rest => rest
  | rest => rest

/-- Reads the bounds of a repetition after its opening brace. -/
def readBounds (flags : Flags) (cs : List Char) : Option (Nat × Option Nat × List Char) :=
  let finish (least : Nat) (most : Option Nat) (rest : List Char) :
      Option (Nat × Option Nat × List Char) :=
    match rest with
    | '\x7d' :: behind =>
      if most.any (· < least) then none
      else some (least, most, skipLazy (skipVerbose flags behind))
    | _ => none
  match readCount (skipVerbose flags cs) with
  | (some least, ',' :: more) =>
    match skipVerbose flags more with
    | '\x7d' :: behind => finish least none ('\x7d' :: behind)
    | upper =>
      match readCount upper with
      | (some most, rest) => finish least (some most) rest
      | (none, _) => none
  | (some exact, rest) => finish exact (some exact) rest
  | (none, _) => none

/-- Reads alternatives up to a closing parenthesis or the end.  `done` holds the alternatives before
the current one, `items` the expressions of the current one, both last first. -/
def readAlternatives :
    Nat → List Node → List (Option Node) → Reading → Option (Node × Reading)
  | 0, _, _, _ => none
  | fuel + 1, done, items, r =>
    let flags := r.flags
    let push (node : Node) (rest : List Char) : Option (Node × Reading) :=
      readAlternatives fuel done (some node :: items) (r.resume rest)
    let again (least : Nat) (most : Option Nat) (rest : List Char) : Option (Node × Reading) :=
      match items with
      | some last :: before =>
        match last.repeated least most with
        | some node => readAlternatives fuel done (some node :: before) (r.resume rest)
        | none => none
      | _ => none
    let finish (rest : List Char) : Option (Node × Reading) :=
      let node := alternatives (sequence items :: done)
      if node.depth > maxDepth ∨ node.states > maxStates then none
      else some (node, r.resume rest)
    match skipVerbose flags r.rest with
    | [] => finish []
    | ')' :: rest => finish (')' :: rest)
    | '|' :: rest => readAlternatives fuel (sequence items :: done) [] (r.resume rest)
    | '?' :: rest => again 0 (some 1) (skipLazy rest)
    | '*' :: rest => again 0 none (skipLazy rest)
    | '+' :: rest => again 1 none (skipLazy rest)
    | '\x7b' :: rest =>
      match readBounds flags rest with
      | some (least, most, behind) => again least most behind
      | none => none
    | '[' :: rest =>
      let (negated, sides, inner) := openClass flags rest
      match readClass flags (inner.length + 1) negated sides inner with
      | some (chars, depth, behind) =>
        match checkedClass flags chars (depth + 1) with
        | some node => push node behind
        | none => none
      | none => none
    | '(' :: rest =>
      match readOpening (r.resume rest) with
      | some (.flags next) => readAlternatives fuel done (none :: items) next
      | some (.group inner start) =>
        match readAlternatives fuel [] [] { start with flags := inner } with
        | some (node, stop) =>
          match stop.rest with
          | ')' :: behind =>
            readAlternatives fuel done (some { node with depth := node.depth + 1 } :: items)
              { flags, names := stop.names, rest := behind }
          | _ => none
        | none => none
      | none => none
    | '\\' :: rest =>
      match readEscape flags rest with
      | some (escaped, behind) =>
        match escapeNode flags escaped with
        | some node => push node behind
        | none => none
      | none => none
    | '.' :: rest =>
      match dotNode flags with
      | some node => push node rest
      | none => none
    | '^' :: rest => push (startNode flags) rest
    | '$' :: rest => push (endNode flags) rest
    | c :: rest =>
      match literalNode flags c with
      | some node => push node rest
      | none => none

/-- The regular expression a text is, if it is one. -/
def Regex.ofText? (text : String) : Option Regex :=
  let cs := text.toList
  match readAlternatives (cs.length + 1) [] [] ⟨{}, [], cs⟩ with
  | some (node, stop) =>
    if stop.rest = [] ∧ node.depth ≤ maxDepth then some node.regex else none
  | none => none

end TypeSchema.Pattern
