import StubServer.Number.Integer
import StubServer.Pattern.Basic

/-!
# Reading patterns

The notation of regular expressions: literals, classes, groups with names and flags, anchors,
alternatives and greedy or lazy repetition. There are no references to groups and no conditions on
the text around a match. Whether a text can be read is part of the notation; the reading fails on
anything else.
-/

namespace StubServer

namespace Pattern

/-- The modes that a group can switch on and off. -/
structure Flags where
  ignoreCase : Bool := false
  multiLine : Bool := false
  dotAll : Bool := false
  crlf : Bool := false
  unicode : Bool := true
  skipBlanks : Bool := false
  swapGreed : Bool := false

namespace Read

/-- The rest of a line after the sign that begins a comment. -/
def afterComment : List Char → List Char
  | [] => []
  | c :: cs => if c = '\n' then cs else afterComment cs

theorem afterComment_length (cs : List Char) : (afterComment cs).length ≤ cs.length := by
  induction cs with
  | nil => simp [afterComment]
  | cons c cs ih =>
    by_cases h : c = '\n'
    · simp [afterComment, h]
    · simp [afterComment, h]
      omega

/-- Leaves out blanks and comments in the mode that allows them. -/
def skip (f : Flags) (cs : List Char) : List Char :=
  if f.skipBlanks then go cs else cs
where
  go : List Char → List Char
    | [] => []
    | c :: cs =>
      if Text.isBlank c then go cs
      else if c = '#' then go (afterComment cs)
      else c :: cs
  termination_by cs => cs.length
  decreasing_by
    · simp
    · have := afterComment_length cs
      simp
      omega

theorem skip_length (f : Flags) (cs : List Char) : (skip f cs).length ≤ cs.length := by
  have hgo : ∀ cs, (skip.go cs).length ≤ cs.length := by
    intro cs
    fun_induction skip.go cs with
    | case1 => exact Nat.le_refl _
    | case2 c cs _ ih => exact Nat.le_succ_of_le ih
    | case3 cs _ ih => exact Nat.le_succ_of_le (Nat.le_trans ih (afterComment_length cs))
    | case4 => exact Nat.le_refl _
  unfold skip
  split
  · exact hgo cs
  · exact Nat.le_refl _

/-- The longest beginning for whose characters the test holds, and the rest. Blanks and comments
that are left out may stand behind each of these characters, and belong to neither. -/
def run (f : Flags) (p : Char → Bool) : List Char → List Char × List Char
  | [] => ([], [])
  | c :: cs =>
    if p c then
      let (taken, rest) := run f p (skip f cs)
      (c :: taken, rest)
    else ([], c :: cs)
termination_by cs => cs.length
decreasing_by exact Nat.lt_succ_of_le (skip_length f cs)

/-- Characters with a meaning of their own, which a backslash makes literal. -/
def isMeta (c : Char) : Bool :=
  "\\.+*?()|[]\x7b\x7d^$#&-~".toList.contains c

/-- Characters that a backslash makes literal. -/
def isEscapable (c : Char) : Bool :=
  isMeta c || (c.toNat < 128 && !Text.isLetter c && !Text.isDigit c && c != '<' && c != '>')

/-- The character of a hexadecimal number, when it is one. -/
def charOf? (cs : List Char) : Option Char :=
  let n := cs.foldl (fun n c => 16 * n + (Text.hexValue? c).getD 0) 0
  if n.isValidChar then some (Char.ofNat n) else none

/-- So many hexadecimal digits, and the rest. -/
def hexDigits (f : Flags) : Nat → List Char → Option (List Char × List Char)
  | 0, cs => some ([], cs)
  | count + 1, cs =>
    match skip f cs with
    | [] => none
    | c :: cs =>
      if Text.isHexDigit c then (hexDigits f count cs).map fun (digits, rest) => (c :: digits, rest)
      else none

/-- The number behind the letter of a hexadecimal escape: in braces, or of fixed width. Blanks and
comments may stand between its digits in the mode that leaves them out. -/
def hexEscape (f : Flags) (width : Nat) (cs : List Char) : Option (Char × List Char) :=
  match skip f cs with
  | '\x7b' :: rest =>
    match run f Text.isHexDigit (skip f rest) with
    | (digits, '\x7d' :: rest) =>
      if digits.isEmpty then none else (charOf? digits).map fun c => (c, rest)
    | _ => none
  | cs => do
    let (digits, rest) ← hexDigits f width cs
    (charOf? digits).map fun c => (c, rest)

/-- An escape or a plain character, before it is known where it stands. -/
inductive Item where
  | literal (c : Char)
  | members (k : CharClass)
  | anchor (a : Anchor)

def negateIf (negated : Bool) (k : CharClass) : CharClass :=
  if negated then .complement k else k

def foldIf (f : Flags) (k : CharClass) : CharClass :=
  if f.ignoreCase then .folded k else k

/-- Without Unicode a class may only hold ASCII. -/
def asciiOnly? (f : Flags) (negated : Bool) (k : CharClass) : Option Item :=
  if negated && !f.unicode then none else some (.members (negateIf negated k))

def digitItem? (f : Flags) (negated : Bool) : Option Item :=
  asciiOnly? f negated (if f.unicode then .digit else .range '0' '9')

def blankItem? (f : Flags) (negated : Bool) : Option Item :=
  asciiOnly? f negated (if f.unicode then .blank else .asciiBlank)

def wordItem? (f : Flags) (negated : Bool) : Option Item :=
  asciiOnly? f negated (if f.unicode then .word else .asciiWord)

/-- The named class of a property, as a name or as a name with a value. -/
def namedClass? (name : List Char) : Option (CharClass × Bool) :=
  let cut (sep : Char) := Text.cutAt? sep name
  match cut '!' with
  | some (n, '=' :: v) => (CharClass.ofValue? n v).map fun k => (k, true)
  | _ =>
    match cut ':' with
    | some (n, v) => (CharClass.ofValue? n v).map fun k => (k, false)
    | none =>
      match cut '=' with
      | some (n, v) => (CharClass.ofValue? n v).map fun k => (k, false)
      | none => (CharClass.ofName? name).map fun k => (k, false)

/-- A property behind the letter that announces it. Its name may have blanks and comments in it in
the mode that leaves them out. -/
def property (f : Flags) (negated : Bool) (cs : List Char) : Option (Item × List Char) := do
  if !f.unicode then none
  let (name, rest) ←
    match skip f cs with
    | [] => none
    | '\x7b' :: rest =>
      match run f (· != '\x7d') (skip f rest) with
      | (name, '\x7d' :: rest) => some (name, rest)
      | _ => none
    | '\\' :: _ => none
    | c :: rest => some ([c], rest)
  let (k, other) ← namedClass? name
  return (.members (negateIf (negated != other) (foldIf f k)), rest)

/-- A word boundary, which may name one of its sides in braces. -/
def wordBoundary (f : Flags) (cs : List Char) : Option (Item × List Char) :=
  let inside (c : Char) : Bool := Text.isLetter c || c == '-'
  let named (cs : List Char) : Option (Item × List Char) :=
    match run f inside cs with
    | (name, '\x7d' :: rest) =>
      match String.ofList name with
      | "start" => some (.anchor .wordStart, rest)
      | "end" => some (.anchor .wordEnd, rest)
      | "start-half" => some (.anchor .wordStartHalf, rest)
      | "end-half" => some (.anchor .wordEndHalf, rest)
      | _ => none
    | _ => none
  match cs with
  | '\x7b' :: rest =>
    if (skip f rest).head?.any inside then named (skip f rest)
    else some (.anchor (.wordEdge f.unicode), cs)
  | _ => some (.anchor (.wordEdge f.unicode), cs)

/-- What a backslash makes of the characters behind it. -/
def escape (f : Flags) (cs : List Char) : Option (Item × List Char) :=
  match cs with
  | [] => none
  | c :: rest =>
    let item (i : Option Item) : Option (Item × List Char) := i.map fun i => (i, rest)
    let literal (c : Char) : Option (Item × List Char) := some (.literal c, rest)
    let anchor (a : Anchor) : Option (Item × List Char) := some (.anchor a, rest)
    match c with
    | 'x' => (hexEscape f 2 rest).map fun (c, rest) => (.literal c, rest)
    | 'u' => (hexEscape f 4 rest).map fun (c, rest) => (.literal c, rest)
    | 'U' => (hexEscape f 8 rest).map fun (c, rest) => (.literal c, rest)
    | 'p' => property f false rest
    | 'P' => property f true rest
    | 'd' => item (digitItem? f false)
    | 'D' => item (digitItem? f true)
    | 's' => item (blankItem? f false)
    | 'S' => item (blankItem? f true)
    | 'w' => item (wordItem? f false)
    | 'W' => item (wordItem? f true)
    | 'a' => literal (Char.ofNat 7)
    | 'f' => literal (Char.ofNat 12)
    | 't' => literal '\t'
    | 'n' => literal '\n'
    | 'r' => literal '\r'
    | 'v' => literal (Char.ofNat 11)
    | 'A' => anchor .textStart
    | 'z' => anchor .textEnd
    | 'b' => wordBoundary f rest
    | 'B' => anchor (.noWordEdge f.unicode)
    | '<' => anchor .wordStart
    | '>' => anchor .wordEnd
    | _ => if isEscapable c then literal c else none

/-- An ASCII class between colons, behind its opening bracket. -/
def asciiClass (f : Flags) (cs : List Char) : Option (CharClass × List Char) :=
  match cs with
  | ':' :: rest =>
    let (negated, rest) :=
      match rest with
      | '^' :: rest => (true, rest)
      | _ => (false, rest)
    match Text.cutAt? ':' rest with
    | some (name, ']' :: rest) =>
      if negated && !f.unicode then none
      else (CharClass.ofAsciiName? (.ofList name)).map fun k => (negateIf negated k, rest)
    | _ => none
  | _ => none

/-- One end of a range of a class, or one member of the class. -/
def classItem (f : Flags) (cs : List Char) : Option (Item × List Char) :=
  match cs with
  | [] => none
  | '\\' :: rest => escape f rest
  | c :: rest => some (.literal c, rest)

/-- A member of a class: a character, a range, or what an escape stands for. -/
def classMember (f : Flags) (cs : List Char) : Option (CharClass × List Char) := do
  let (first, rest) ← classItem f cs
  let rest := skip f rest
  let alone : Option (CharClass × List Char) :=
    match first with
    | .literal c => some (.single c, rest)
    | .members k => some (k, rest)
    | .anchor _ => none
  match rest with
  | [] => none
  | '-' :: behind =>
    match skip f behind with
    | ']' :: _ => alone
    | '-' :: _ => alone
    | behind =>
      let (last, rest) ← classItem f behind
      match first, last with
      | .literal a, .literal b => if a ≤ b then some (.range a b, rest) else none
      | _, _ => none
  | _ => alone

/-- The ways in which two parts of a class are combined. -/
inductive ClassOp where
  | inter
  | minus
  | differing

/-- The class so far: the part before the last operator with that operator, and the union read
since. -/
structure ClassState where
  left : Option (CharClass × ClassOp) := none
  members : CharClass := .none

def ClassState.close (f : Flags) (s : ClassState) : CharClass :=
  match s.left with
  | none => s.members
  | some (a, op) =>
    let a := foldIf f a
    let b := foldIf f s.members
    match op with
    | .inter => .inter a b
    | .minus => .minus a b
    | .differing => .differing a b

def ClassState.add (s : ClassState) (k : CharClass) : ClassState :=
  { s with members := if s.members = .none then k else .union s.members k }

def ClassState.operate (f : Flags) (s : ClassState) (op : ClassOp) : ClassState :=
  ⟨some (s.close f, op), .none⟩

/-- The hyphens and the closing bracket that count as members at the start of a class. -/
def classStart (f : Flags) (cs : List Char) : Option (Bool × ClassState × List Char) := do
  let cs := skip f cs
  let (negated, cs) :=
    match cs with
    | '^' :: rest => (true, skip f rest)
    | _ => (false, cs)
  let hyphens := cs.takeWhile fun c => c == '-' || (f.skipBlanks && Text.isBlank c)
  let hyphen := hyphens.contains '-'
  let cs := if hyphen then skip f (cs.drop hyphens.length) else cs
  let s : ClassState := if hyphen then { members := .single '-' } else {}
  match cs with
  | [] => none
  | ']' :: rest =>
    if hyphen then return (negated, s, cs)
    else
      let rest := skip f rest
      if rest.isEmpty then none
      return (negated, s.add (.single ']'), rest)
  | _ => return (negated, s, cs)

/-- The members of a class up to its closing bracket. -/
def classBody (f : Flags) (negated : Bool) (s : ClassState) :
    Nat → List Char → Option (CharClass × List Char)
  | 0, _ => none
  | fuel + 1, cs =>
    match skip f cs with
    | [] => none
    | ']' :: rest =>
      if negated && !f.unicode then none
      else some (negateIf negated (foldIf f (s.close f)), rest)
    | '[' :: rest =>
      match asciiClass f rest with
      | some (k, rest) => classBody f negated (s.add k) fuel rest
      | none => do
        let (inner, t, rest) ← classStart f rest
        let (k, rest) ← classBody f inner t fuel rest
        classBody f negated (s.add k) fuel rest
    | '&' :: '&' :: rest => classBody f negated (s.operate f .inter) fuel rest
    | '-' :: '-' :: rest => classBody f negated (s.operate f .minus) fuel rest
    | '~' :: '~' :: rest => classBody f negated (s.operate f .differing) fuel rest
    | cs => do
      let (k, rest) ← classMember f cs
      classBody f negated (s.add k) fuel rest

/-- A class behind its opening bracket. -/
def bracketClass (f : Flags) (cs : List Char) : Option (CharClass × List Char) := do
  let (negated, s, rest) ← classStart f cs
  classBody f negated s (cs.length + 1) rest

/-- A decimal number with blanks around it, and in it where they are left out, below 2 to the 32. -/
def decimal (f : Flags) (cs : List Char) : Option (Nat × List Char) :=
  let (digits, rest) := run f Text.isDigit (Text.trimStartChars cs)
  let n := digits.foldl (fun n c => 10 * n + (c.toNat - '0'.toNat)) 0
  if digits.isEmpty || Number.size32 ≤ n then none
  else some (n, Text.trimStartChars rest)

/-- The bounds of a counted repetition, behind its opening brace. -/
def bounds (f : Flags) (cs : List Char) : Option ((Nat × Option Nat) × List Char) := do
  let (least, rest) ← decimal f (skip f cs)
  match rest with
  | '\x7d' :: rest => return ((least, some least), rest)
  | ',' :: rest =>
    match skip f rest with
    | '\x7d' :: rest => return ((least, none), rest)
    | rest =>
      let (most, rest) ← decimal f rest
      if most < least then none
      match rest with
      | '\x7d' :: rest => return ((least, some most), rest)
      | _ => none
  | _ => none

/-- One flag letter switched on or off. -/
def setFlag? (f : Flags) (on : Bool) (c : Char) : Option Flags :=
  match c with
  | 'i' => some { f with ignoreCase := on }
  | 'm' => some { f with multiLine := on }
  | 's' => some { f with dotAll := on }
  | 'R' => some { f with crlf := on }
  | 'u' => some { f with unicode := on }
  | 'x' => some { f with skipBlanks := on }
  | 'U' => some { f with swapGreed := on }
  | _ => none

/-- The flag letters of a group up to the colon or parenthesis behind them, which stays. -/
def flags (f : Flags) (on : Bool) (seen : List Char) : List Char → Option (Flags × List Char)
  | [] => none
  | c :: cs =>
    if c = ':' || c = ')' then
      if seen.head? = some '-' then none else some (f, c :: cs)
    else if c = '-' then
      if on then flags f false ('-' :: seen) cs else none
    else if seen.contains c then none
    else
      match setFlag? f on c with
      | some f => flags f on (c :: seen) cs
      | none => none

/-- The name of a group up to the sign that ends it, if it is a name. -/
def groupName (cs : List Char) : Option (List Char × List Char) := do
  let (name, rest) ← Text.cutAt? '>' cs
  let starts (c : Char) : Bool :=
    c == '_' || Text.isLetter c || (128 ≤ c.toNat && isWordChar c && !isDecimalDigit c)
  let goesOn (c : Char) : Bool :=
    starts c || isDecimalDigit c || c == '.' || c == '[' || c == ']'
  match name with
  | [] => none
  | c :: tail => if starts c && tail.all goesOn then some (name, rest) else none

/-- The anchor of a caret or a dollar sign. -/
def lineAnchor (f : Flags) (start : Bool) : Anchor :=
  match f.multiLine, f.crlf, start with
  | true, true, true => .crlfLineStart
  | true, true, false => .crlfLineEnd
  | true, false, true => .lineStart
  | true, false, false => .lineEnd
  | false, _, true => .textStart
  | false, _, false => .textEnd

/-- The class of a dot. -/
def dot? (f : Flags) : Option CharClass :=
  if !f.unicode then none
  else if f.dotAll then some .any
  else if f.crlf then some (.complement (.union (.single '\n') (.single '\r')))
  else some (.complement (.single '\n'))

/-- What the reader of a group has so far: finished alternatives, the items of the one being read
with the latest first, and the flags. Setting flags leaves an item that nothing may repeat. -/
structure GroupState where
  flags : Flags
  alternatives : List Regex := []
  items : List (Option Regex) := []
  names : List (List Char)

def GroupState.push (s : GroupState) (r : Regex) : GroupState :=
  { s with items := some r :: s.items }

/-- The alternative being read. -/
def GroupState.sequence (s : GroupState) : Regex :=
  Regex.seqs (s.items.reverse.filterMap id)

def GroupState.result (s : GroupState) : Regex :=
  s.alternatives.foldl (fun r a => .alt a r) s.sequence

/-- Repeats the latest item; the question mark of a lazy repetition is read over. -/
def GroupState.repeatLast (s : GroupState) (least : Nat) (most : Option Nat) (rest : List Char) :
    Option (GroupState × List Char) :=
  match s.items with
  | some r :: items =>
    let rest :=
      match skip s.flags rest with
      | '?' :: rest => rest
      | rest => rest
    some ({ s with items := some (Regex.repeated r least most) :: items }, rest)
  | _ => none

/-- Reads a group up to the parenthesis that closes it, or up to the end of the pattern. -/
def group (s : GroupState) : Nat → List Char → Option (GroupState × List Char)
  | 0, _ => none
  | fuel + 1, cs =>
    let item (r : Regex) (rest : List Char) := group (s.push r) fuel rest
    let nested (flags : Flags) (names : List (List Char)) (rest : List Char) :
        Option (GroupState × List Char) := do
      let (inner, rest) ← group { flags, names } fuel rest
      match rest with
      | ')' :: rest => group { s.push inner.result with names := inner.names } fuel rest
      | _ => none
    let named (rest : List Char) : Option (GroupState × List Char) := do
      let (name, rest) ← groupName rest
      if s.names.contains name then none else nested s.flags (name :: s.names) rest
    match skip s.flags cs with
    | [] => some (s, [])
    | ')' :: rest => some (s, ')' :: rest)
    | '|' :: rest =>
      group { s with alternatives := s.sequence :: s.alternatives, items := [] } fuel rest
    | '(' :: rest =>
      match skip s.flags rest with
      | '?' :: 'P' :: '<' :: rest => named rest
      | '?' :: '<' :: c :: rest => if c = '=' || c = '!' then none else named (c :: rest)
      | '?' :: rest =>
        match flags s.flags true [] rest with
        | some (flags, ':' :: rest) => nested flags s.names rest
        | some (flags, ')' :: behind) =>
          if rest.head? = some ')' then none
          else group { s with flags, items := none :: s.items } fuel behind
        | _ => none
      | rest => nested s.flags s.names rest
    | '[' :: rest => do
      let (k, rest) ← bracketClass s.flags rest
      item (.one k) rest
    | '*' :: rest => do
      let (s, rest) ← s.repeatLast 0 none rest
      group s fuel rest
    | '+' :: rest => do
      let (s, rest) ← s.repeatLast 1 none rest
      group s fuel rest
    | '?' :: rest => do
      let (s, rest) ← s.repeatLast 0 (some 1) rest
      group s fuel rest
    | '\x7b' :: rest => do
      let ((least, most), rest) ← bounds s.flags rest
      let (s, rest) ← s.repeatLast least most rest
      group s fuel rest
    | '.' :: rest => do item (.one (← dot? s.flags)) rest
    | '^' :: rest => item (.anchor (lineAnchor s.flags true)) rest
    | '$' :: rest => item (.anchor (lineAnchor s.flags false)) rest
    | '\\' :: rest =>
      match escape s.flags rest with
      | some (.literal c, rest) => item (.one (foldIf s.flags (.single c))) rest
      | some (.members k, rest) => item (.one k) rest
      | some (.anchor a, rest) => item (.anchor a) rest
      | none => none
    | c :: rest => item (.one (foldIf s.flags (.single c))) rest

end Read

/-- The pattern that a text denotes, if it denotes one. -/
def Regex.read? (text : String) (ignoreCase : Bool) : Option Regex :=
  let cs := text.toList
  match Read.group { flags := { ignoreCase }, names := [] } (cs.length + 1) cs with
  | some (s, []) => some s.result
  | _ => none

end Pattern

end StubServer
