import SolidDrawing.Text.Blank
import SolidDrawing.Text.Hex
import SolidDrawing.Text.Letter

/-!
# Patterns of field values

A log filter may ask for fields whose values match a pattern, a regular expression. `isPattern` tells which texts are
patterns. What they match is left open, since it matters inside of spans only.

A pattern is read character by character, in a mode that its flags turn over. It matches whole characters, so that
without the flag `u` nothing is allowed that could match a part of one. With it, nothing is allowed that needs to know
the kind of a character or its other case.
-/

namespace SolidDrawing.Pattern

/-- How a part of a pattern is read. -/
structure Mode where
  ignoreCase : Bool := false
  /-- Characters and not bytes are matched. -/
  unicode : Bool := true
  /-- Blanks and comments are skipped. -/
  verbose : Bool := false
  deriving Repr, DecidableEq

/-- What follows the blanks and comments at the front of a text. -/
def dropBlanks (inComment : Bool) : List Char → List Char
  | [] => []
  | c :: cs =>
    if inComment then dropBlanks (c != '\n') cs
    else if Text.isBlank c then dropBlanks false cs
    else if c == '#' then dropBlanks true cs
    else c :: cs

/-- What follows the characters at the front of a text that do not count. -/
def Mode.skip (m : Mode) (cs : List Char) : List Char := if m.verbose then dropBlanks false cs else cs

/-- The mode with a flag on or off. Flags about lines and about greed leave it as it is. -/
def Mode.set (m : Mode) (on : Bool) : Char → Mode
  | 'i' => { m with ignoreCase := on }
  | 'u' => { m with unicode := on }
  | 'x' => { m with verbose := on }
  | _ => m

/-- What stands for a place, a character or a set of characters. -/
inductive Atom where
  /-- A character; `byte` holds if it is given by two hexadecimal digits. -/
  | char (c : Char) (byte : Bool)
  | set
  | place
  deriving Repr, DecidableEq

/-- An atom that is allowed outside of brackets. -/
def Mode.allows (m : Mode) : Atom → Bool
  | .char c byte => if m.unicode then !m.ignoreCase else c.toNat < 0x80 || !(byte || m.ignoreCase)
  | .set => !m.unicode
  | .place => true

/-- A character of a set in brackets. -/
def Mode.allowsInSet (m : Mode) (c : Char) : Bool := m.unicode || c.toNat < 0x80

/-- A character that may stand behind a backslash for itself. -/
def isEscapable (c : Char) : Bool := c.toNat < 0x80 && !c.isAlphanum && c != '<' && c != '>'

/-- The character of a letter behind a backslash. -/
def controlChar? : Char → Option Char
  | 'a' => some '\x07'
  | 'f' => some '\x0c'
  | 'n' => some '\n'
  | 'r' => some '\r'
  | 't' => some '\t'
  | 'v' => some '\x0b'
  | _ => none

/-- Reads as many hexadecimal digits behind digits with the value `n`. -/
def hexDigits? (m : Mode) : Nat → Nat → List Char → Option (Nat × List Char)
  | 0, n, cs => some (n, cs)
  | count + 1, n, cs =>
    match m.skip cs with
    | [] => none
    | c :: cs => (Text.hexDigit? c).bind fun d => hexDigits? m count (16 * n + d) cs

/-- Reads a character given by a number of hexadecimal digits. -/
def hexAtom? (m : Mode) (digits : Nat) (cs : List Char) : Option (Atom × List Char) :=
  (hexDigits? m digits 0 cs).bind fun r =>
    if r.1.isValidChar then some (.char (Char.ofNat r.1) (digits == 2), r.2) else none

/-- Reads what stands behind a backslash. -/
def escape? (m : Mode) : List Char → Option (Atom × List Char)
  | [] => none
  | c :: cs =>
    match c with
    | 'x' => hexAtom? m 2 cs
    | 'u' => hexAtom? m 4 cs
    | 'U' => hexAtom? m 8 cs
    | 'd' | 's' | 'w' => some (.set, cs)
    | 'A' | 'z' => some (.place, cs)
    | 'b' | 'B' | '<' | '>' => if m.unicode then none else some (.place, cs)
    | c =>
      match controlChar? c with
      | some control => some (.char control false, cs)
      | none => if isEscapable c then some (.char c false, cs) else none

/-! ### Sets in brackets -/

/-- The sets that have names, all of them of ASCII characters. -/
def setNames : List String :=
  ["alnum", "alpha", "ascii", "blank", "cntrl", "digit", "graph", "lower", "print", "punct", "space", "upper", "word",
    "xdigit"]

/-- A set by its name, read behind its opening bracket: whether it is turned over, and what follows. -/
def namedSet? : List Char → Option (Bool × List Char)
  | ':' :: cs =>
    let (negated, cs) := match cs with
      | '^' :: cs => (true, cs)
      | cs => (false, cs)
    let (name, rest) := cs.span (· != ':')
    match rest with
    | ':' :: ']' :: rest => if setNames.contains (String.ofList name) then some (negated, rest) else none
    | _ => none
  | _ => none

/-- What follows the hyphens at the front of a text, at most `fuel` of them. -/
def dropHyphens (m : Mode) : Nat → List Char → List Char
  | 0, cs => cs
  | fuel + 1, cs =>
    match m.skip cs with
    | '-' :: cs => dropHyphens m fuel cs
    | cs => cs

/-- Reads the front of a set behind its opening bracket: a sign that turns it over, and either hyphens or one closing
bracket, all of which stand for themselves. -/
def openSet? (m : Mode) (cs : List Char) : Option (List Char) :=
  let inner? : Option (List Char) := match m.skip cs with
    | '^' :: cs => if m.unicode then some (m.skip cs) else none
    | cs => some cs
  if m.unicode && m.ignoreCase then none
  else
    inner?.map fun cs =>
      match cs with
      | ']' :: cs => cs
      | cs => dropHyphens m cs.length cs

/-- Reads an item of a set: a character, or nothing for a set. -/
def setItem? (m : Mode) (cs : List Char) : Option (Option Char × List Char) :=
  match cs with
  | [] => none
  | '\\' :: cs =>
    match escape? m cs with
    | some (.char c byte, cs) => if m.allows (.char c byte) && m.allowsInSet c then some (some c, cs) else none
    | some (.set, cs) => if m.allows .set then some (none, cs) else none
    | _ => none
  | c :: cs => if m.allowsInSet c then some (some c, cs) else none

/-- Reads an item of a set, or a range between two characters. -/
def setRange? (m : Mode) (cs : List Char) : Option (List Char) := do
  let (first, cs) ← setItem? m cs
  match m.skip cs with
  | '-' :: after =>
    match m.skip after with
    | ']' :: _ => some ('-' :: after)
    | '-' :: _ => some ('-' :: after)
    | cs =>
      let (last, cs) ← setItem? m cs
      if (← first) ≤ (← last) then some cs else none
  | cs => some cs

/-- Reads the rest of a set with `depth` sets open around it. -/
def setRest? (m : Mode) : Nat → Nat → List Char → Option (List Char)
  | 0, _, _ => none
  | fuel + 1, depth, cs =>
    match m.skip cs with
    | [] => none
    | '[' :: cs =>
      match namedSet? cs with
      | some (negated, rest) => if negated && !m.unicode then none else setRest? m fuel depth rest
      | none => (openSet? m cs).bind (setRest? m fuel (depth + 1))
    | ']' :: cs =>
      match depth with
      | 0 => some cs
      | depth + 1 => setRest? m fuel depth cs
    | '&' :: '&' :: cs => setRest? m fuel depth cs
    | '-' :: '-' :: cs => setRest? m fuel depth cs
    | '~' :: '~' :: cs => setRest? m fuel depth cs
    | cs => (setRange? m cs).bind (setRest? m fuel depth)

/-- Reads a set behind its opening bracket. -/
def set? (m : Mode) (cs : List Char) : Option (List Char) := (openSet? m cs).bind (setRest? m (cs.length + 1) 0)

/-! ### Groups -/

/-- Flags: each at most once, a hyphen too, and the hyphen not at the end. -/
def areFlags : List Char → Bool
  | [] => true
  | c :: cs => "imsUuRx-".contains c && !cs.contains c && !(c == '-' && cs.isEmpty) && areFlags cs

/-- The mode that flags lead to. Those behind a hyphen are off. -/
def Mode.setAll (m : Mode) (on : Bool) : List Char → Mode
  | [] => m
  | '-' :: cs => m.setAll false cs
  | c :: cs => (m.set on c).setAll on cs

/-- The name of a group. -/
def isGroupName : List Char → Bool
  | [] => false
  | c :: cs =>
    (c == '_' || Text.isLetter c) && cs.all fun c => "_.[]".contains c || Text.isAlphanumeric c

/-- What an opening bracket starts. -/
inductive Opening where
  /-- Flags for what follows in the same group. -/
  | flags (m : Mode)
  /-- A group, which may have a name. -/
  | group (m : Mode) (name : Option String)
  deriving Repr, DecidableEq

/-- Reads the name of a group up to its closing angle bracket. -/
def namedGroup? (m : Mode) (cs : List Char) : Option (Opening × List Char) :=
  let (name, rest) := cs.span (· != '>')
  match rest with
  | '>' :: rest => if isGroupName name then some (.group m (some (String.ofList name)), rest) else none
  | _ => none

/-- Reads what starts behind an opening round bracket. -/
def opening? (m : Mode) (cs : List Char) : Option (Opening × List Char) :=
  match m.skip cs with
  | '?' :: 'P' :: '<' :: cs => namedGroup? m cs
  | '?' :: '<' :: cs => namedGroup? m cs
  | '?' :: cs =>
    let (flags, rest) := cs.span fun c => c != ':' && c != ')'
    if areFlags flags then
      match rest with
      | ':' :: rest => some (.group (m.setAll true flags) none, rest)
      | ')' :: rest => if flags.isEmpty then none else some (.flags (m.setAll true flags), rest)
      | _ => none
    else none
  | cs => some (.group m none, cs)

/-! ### Patterns -/

/-- What follows a question mark at the front of a text. -/
def dropQuestion : List Char → List Char
  | '?' :: cs => cs
  | cs => cs

/-- The rest of a pattern can be read. `outer` holds the modes of the groups around it, `operand` tells whether there is
something to be repeated in front of it, and `names` holds the names of groups that are taken. -/
def isRest : Nat → Mode → List Mode → Bool → List String → List Char → Bool
  | 0, _, _, _, _, _ => false
  | fuel + 1, m, outer, operand, names, cs =>
    match m.skip cs with
    | [] => outer.isEmpty
    | c :: cs =>
      match c with
      | '(' =>
        match opening? m cs with
        | none => false
        | some (.flags m, cs) => isRest fuel m outer false names cs
        | some (.group inner none, cs) => isRest fuel inner (m :: outer) false names cs
        | some (.group inner (some name), cs) =>
          !names.contains name && isRest fuel inner (m :: outer) false (name :: names) cs
      | ')' =>
        match outer with
        | [] => false
        | m :: outer => isRest fuel m outer true names cs
      | '|' => isRest fuel m outer false names cs
      | '[' => (set? m cs).any (isRest fuel m outer true names)
      | '\\' => (escape? m cs).any fun r => m.allows r.1 && isRest fuel m outer true names r.2
      | '?' | '*' | '+' => operand && isRest fuel m outer true names (dropQuestion cs)
      | '^' | '$' => isRest fuel m outer true names cs
      | '.' => m.unicode && isRest fuel m outer true names cs
      | '\x7b' => false
      | c => m.allows (.char c false) && isRest fuel m outer true names cs

/-- The text is a pattern. No count of repetitions is allowed in it, since a closing brace ends the field. -/
def isPattern (cs : List Char) : Bool := isRest (cs.length + 1) {} [] false [] cs

end SolidDrawing.Pattern
