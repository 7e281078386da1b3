import ProblemMatcher.Regex.Flags
import ProblemMatcher.Regex.Node
import ProblemMatcher.Regex.Rejection
import ProblemMatcher.Regex.Token
import ProblemMatcher.Text.CharacterName
import ProblemMatcher.Text.Identifier

/-!
# Reading a pattern

A pattern is read by one pass over its tokens. The reader holds the groups that are open, the
innermost first, each with its finished branches and the items of the branch being read, and a mode
that says what kind of token comes next: an item, the rest of an escape, a member of a character
class, the head of a group. `Reader.step` takes one token, `Reader.finish` takes the end of the
pattern, and `parse` runs the one over all tokens and then the other.

A token that does not belong to what is being read ends it and is then read as an item. So a brace
that turns out not to be a repetition becomes the characters it was written with, and an octal
escape or a group number ends where its digits end.

A rejected count is held back for one token (`Mode.rejected`), because a pattern that stops right
there in a lone backslash is malformed before its counts are looked at.
-/

namespace ProblemMatcher.Regex

open ProblemMatcher.Text

/-! ## What is being read -/

/-- What a repetition would apply to. -/
inductive LastItem
  | nothing
  | place
  | repetition
  | item
  deriving Repr, DecidableEq

/-- What the closing parenthesis makes of the body. -/
inductive FrameKind
  | whole
  | capture (index : Nat)
  | plain
  | scope
  | atomic
  /-- `outermost` says that the lookbehind is not inside another one. -/
  | look (behind negated outermost : Bool)
  /-- The first branch is kept once it is finished. -/
  | given (index : Nat) (yes : Option Node)
  deriving Repr, DecidableEq

/-- A group being read. Branches and items are kept last first. -/
structure Frame where
  kind : FrameKind
  flags : Flags
  branches : List (List Node) := []
  items : List Node := []
  last : LastItem := .nothing
  deriving Repr, DecidableEq

/-- Where a character class stands: right after its bracket, before a member, after a member that
may begin a range, or after the dash of one. -/
inductive ClassStage
  | start
  | next
  | after (item : ClassItem)
  | dash (item : ClassItem)
  deriving Repr, DecidableEq

/-- A character class being read; members last first. -/
structure ClassState where
  negated : Bool := false
  items : List ClassItem := []
  stage : ClassStage := .start
  deriving Repr, DecidableEq

/-- The rest of an escape. -/
inductive EscapeRest
  | hex (left value : Nat)
  | octal (left value : Nat)
  /-- One or two digits of a group number, or of an octal escape. -/
  | number (first : Nat) (second : Option Nat)
  | nameStart
  /-- A character name, last character first. -/
  | name (read : List Char)
  deriving Repr, DecidableEq

/-- What a name in a group's head is for. -/
inductive NameUse
  | capture
  | backref
  | condition
  deriving Repr, DecidableEq

inductive Mode
  | ready
  | afterRepeat
  | comment
  /-- The digits of a repetition in braces, last first; the second list once a comma is read. -/
  | brace (least : List Char) (most : Option (List Char))
  | rejected (cause : Rejection)
  | groupStart
  | groupKind
  | groupComment
  | groupNamed
  | lookbehindKind
  | groupName (use : NameUse) (read : List Char)
  | turnOn (on : Flags)
  | turnOff (on off : Flags) (isFirst : Bool)
  | escape (rest : EscapeRest) (cls : Option ClassState)
  | inClass (cls : ClassState)
  deriving Repr, DecidableEq

structure Reader where
  given : Flags
  /-- Modes that the pattern turned on for all of itself. -/
  inline : Flags := .plain
  groupCount : Nat := 0
  /-- Widths of the groups that are closed. -/
  closed : List (Nat × Width) := []
  names : List (List Char × Nat) := []
  /-- Inside a lookbehind, the number of the first group that it may not refer to. -/
  lookbehindFrom : Option Nat := none
  /-- The highest group number a condition asks about. -/
  furthestCondition : Nat := 0
  unfixedLookbehind : Bool := false
  wideLookbehind : Bool := false
  hasLoop : Bool := false
  top : Frame
  outer : List Frame := []
  mode : Mode := .ready
  deriving Repr, DecidableEq

def fail {α : Type} (fault : Fault) : Except Rejection α :=
  .error (.malformed fault)

namespace Frame

/-- The branch being read; a plain group in it is no more than its items. -/
def branch (f : Frame) : List Node :=
  f.items.reverse.flatMap Node.items

/-- All branches. -/
def body (f : Frame) : Node :=
  .choice (f.branch :: f.branches).reverse

def rule (f : Frame) : CaseRule :=
  if f.flags.ignoreCase then (if f.flags.ascii then .ascii else .unicode) else .exact

def push (f : Frame) (node : Node) (last : LastItem := .item) : Frame :=
  { f with items := node :: f.items, last }

/-- Nothing of the frame has been read. -/
def isFresh (f : Frame) : Bool :=
  f.branches.isEmpty && f.items.isEmpty

end Frame

namespace Reader

def start (given : Flags) : Reader :=
  { given, top := { kind := .whole, flags := given } }

def push (r : Reader) (node : Node) (last : LastItem := .item) : Reader :=
  { r with top := r.top.push node last, mode := .ready }

def literal (r : Reader) (code : Nat) : Reader :=
  r.push (.one (.ofCode code r.top.rule))

def literals (r : Reader) (cs : List Char) : Reader :=
  cs.foldl (fun r c => r.literal c.toNat) r

def place (r : Reader) (which : Place) : Reader :=
  r.push (.place which) .place

def set (r : Reader) (items : List ClassItem) (negated : Bool) : Reader :=
  r.push (.one { items, negated, rule := r.top.rule, ascii := r.top.flags.ascii })

/-! ## Groups -/

def isClosed (r : Reader) (index : Nat) : Bool :=
  r.closed.any (·.1 == index)

def groupWidth (r : Reader) (index : Nat) : Width :=
  (r.closed.lookup index).getD .zero

def enter (r : Reader) (kind : FrameKind) (flags : Flags) : Reader :=
  { r with top := { kind, flags }, outer := r.top :: r.outer, mode := .ready }

def openCapture (r : Reader) : Reader :=
  { r with groupCount := r.groupCount + 1 }.enter (.capture (r.groupCount + 1)) r.top.flags

def openNamed (r : Reader) (name : List Char) : Except Rejection Reader :=
  if !isIdentifier name then fail .badGroupName
  else if r.names.any (·.1 == name) then fail .repeatedGroupName
  else .ok { r with names := (name, r.groupCount + 1) :: r.names }.openCapture

def openLook (r : Reader) (behind negated : Bool) : Reader :=
  -- a lookbehind inside another one keeps the limit of the outer one
  let outermost := behind && r.lookbehindFrom.isNone
  let r := if outermost then { r with lookbehindFrom := some (r.groupCount + 1) } else r
  r.enter (.look behind negated outermost) r.top.flags

/-- A lookbehind refers to closed groups outside itself only. -/
def checkLookbehind (r : Reader) (index : Nat) : Except Rejection Unit :=
  match r.lookbehindFrom with
  | none => .ok ()
  | some limit =>
    if !r.isClosed index then fail .openGroup
    else if limit ≤ index then fail .groupOfLookbehind
    else .ok ()

/-- A reference to the text of a closed group. -/
def refer (r : Reader) (index : Nat) : Except Rejection Reader := do
  if r.groupCount < index then fail .unknownGroup
  if !r.isClosed index then fail .openGroup
  r.checkLookbehind index
  return r.push (.backref index r.top.rule)

def referNamed (r : Reader) (name : List Char) : Except Rejection Reader :=
  if !isIdentifier name then fail .badGroupName
  else match r.names.lookup name with
    | some index => r.refer index
    | none => fail .unknownGroup

/-- Group numbers stay below this. -/
def maxGroups : Nat := 1073741823

/-- A conditional group asks about a group by its name, or by a number that need not have been
reached yet. -/
def openCondition (r : Reader) (name : List Char) : Except Rejection Reader := do
  if isIdentifier name then
    match r.names.lookup name with
    | some index =>
      r.checkLookbehind index
      return r.enter (.given index none) r.top.flags
    | none => fail .unknownGroup
  else
    match parseInt name with
    | .error _ => fail .badGroupName
    | .ok number =>
      if number < 0 then fail .badGroupName
      let index := number.toNat
      if index = 0 || maxGroups ≤ index then fail .unknownGroup
      r.checkLookbehind index
      return { r with furthestCondition := max r.furthestCondition index }.enter
        (.given index none) r.top.flags

/-- The end of a branch. -/
def nextBranch (r : Reader) : Except Rejection Reader :=
  match r.top.kind with
  | .given index none =>
    .ok { r with
      top := { kind := .given index (some (.sequence r.top.branch)), flags := r.top.flags }
      mode := .ready }
  | .given _ (some _) => fail .tooManyBranches
  | _ =>
    let branches := r.top.branch :: r.top.branches
    .ok { r with top := { r.top with branches, items := [], last := .nothing }, mode := .ready }

/-- The alphabets in force exclude each other. -/
def hasConflict (r : Reader) : Bool :=
  let flags := r.given.union r.inline
  flags.ascii && flags.unicode

/-- A lookbehind steps back at most this far. -/
def maxLookbehind : Nat := 2147483647

/-- The end of a group. -/
def close (r : Reader) : Except Rejection Reader :=
  match r.outer with
  -- a stray parenthesis ends the reading, so the alphabets are looked at before it
  | [] => if r.hasConflict then .error .alphabetConflict else fail .unbalancedParenthesis
  | parent :: outer =>
    let body := r.top.body
    let back := { r with top := parent, outer }
    match r.top.kind with
    | .whole => fail .unbalancedParenthesis
    | .capture index =>
      .ok <| { back with closed := (index, body.width r.groupWidth) :: r.closed }.push
        (.group index body)
    | .plain => .ok (back.push body)
    | .scope => .ok (back.push (.scope body))
    | .atomic => .ok (back.push (.atomic body))
    | .look false negated _ => .ok (back.push (.look .ahead negated body))
    | .look true negated outermost =>
      let width := (body.width r.groupWidth).fixed?
      .ok <| { back with
          lookbehindFrom := if outermost then none else r.lookbehindFrom
          unfixedLookbehind := r.unfixedLookbehind || width.isNone
          wideLookbehind := r.wideLookbehind || width.any (maxLookbehind < ·) }.push
        (.look (.behind (width.getD 0)) negated body)
    | .given index none => .ok (back.push (.given index (.sequence r.top.branch) .empty))
    | .given index (some yes) => .ok (back.push (.given index yes (.sequence r.top.branch)))

/-! ## Repetitions -/

/-- Repeats the last item. -/
def repeatLast (r : Reader) (least : Nat) (most : Option Nat) : Except Rejection Reader :=
  match r.top.last, r.top.items with
  -- a place cannot be repeated, and neither can a repetition
  | .item, node :: items =>
    .ok { r with
      top := { r.top with items := .loop least most .greedy node :: items, last := .repetition }
      hasLoop := true
      mode := .afterRepeat }
  | .repetition, _ => fail .repeatedRepeat
  | _, _ => fail .nothingToRepeat

/-- Changes how the repetition just read chooses its count. -/
def setGreed (r : Reader) (greed : Greed) : Reader :=
  let items := match r.top.items with
    | .loop least most _ body :: items => .loop least most greed body :: items
    | items => items
  { r with top := { r.top with items }, mode := .ready }

/-- Counts stay below this. -/
def maxCount : Nat := 4294967295

/-- A repetition count; `default` when no digit is given. -/
def count (digits : List Char) (default : Option Nat) : Except Rejection (Option Nat) :=
  if digits.isEmpty then .ok default
  else if digits.length > maxDigits then .error (.countTooLong digits.length)
  else
    let n := ofDigits (digits.filterMap digitValue?)
    if maxCount ≤ n then .error .countTooLarge else .ok (some n)

/-- A complete repetition in braces; without a comma both counts are the same. -/
def closeBrace (r : Reader) (least : List Char) (most : Option (List Char)) :
    Except Rejection Reader :=
  let bounds : Except Rejection (Nat × Option Nat) := do
    let lo ← count least (some 0)
    let hi ← count (most.getD least) none
    return (lo.getD 0, hi)
  match bounds with
  -- reported with the next token, unless that is a lone backslash
  | .error cause => .ok { r with mode := .rejected cause }
  | .ok (lo, some hi) => if hi < lo then fail .leastAboveMost else r.repeatLast lo (some hi)
  | .ok (lo, none) => r.repeatLast lo none

/-- The characters of a brace that is no repetition. -/
def braceText (least : List Char) (most : Option (List Char)) : List Char :=
  '{' :: least.reverse ++ match most with
    | some digits => ',' :: digits.reverse
    | none => []

/-! ## Character classes and escapes -/

/-- A member of a class has been read; after a dash it ends a range. -/
def member (r : Reader) (cls : ClassState) (item : ClassItem) : Except Rejection Reader :=
  match cls.stage, item with
  | .dash (.single lo), .single hi =>
    if hi < lo then fail .badRange
    else .ok { r with
      mode := .inClass { cls with items := .range lo hi :: cls.items, stage := .next } }
  -- a category is at neither end of a range
  | .dash _, _ => fail .badRange
  | _, _ => .ok { r with mode := .inClass { cls with stage := .after item } }

/-- The closing bracket; a member counts once. -/
def closeClass (r : Reader) (cls : ClassState) (items : List ClassItem) : Reader :=
  r.set items.reverse.eraseDups cls.negated

/-- A code point named by an escape, outside a class or in it. -/
def deliver (r : Reader) (cls : Option ClassState) (code : Nat) : Except Rejection Reader :=
  match cls with
  | none => .ok (r.literal code)
  | some cls => r.member cls (.single code)

def controlEscape? : Char → Option Nat
  | 'a' => some 7
  | 'f' => some 12
  | 'n' => some 10
  | 'r' => some 13
  | 't' => some 9
  | 'v' => some 11
  | '\\' => some 92
  | _ => none

def category? : Char → Option ClassItem
  | 'd' => some (.category .digit false)
  | 'D' => some (.category .digit true)
  | 's' => some (.category .space false)
  | 'S' => some (.category .space true)
  | 'w' => some (.category .word false)
  | 'W' => some (.category .word true)
  | _ => none

def place? (ascii : Bool) : Char → Option Place
  | 'A' => some .textStart
  | 'Z' => some .textEnd
  | 'b' => some (.wordEdge ascii)
  | 'B' => some (.notWordEdge ascii)
  | _ => none

def isAsciiLetter (c : Char) : Bool :=
  c.isAlpha

def octalValue? (c : Char) : Option Nat :=
  if '0' ≤ c && c ≤ '7' then some (c.toNat - 48) else none

def hexValue? (c : Char) : Option Nat :=
  if c.isDigit then some (c.toNat - 48)
  else if 'a' ≤ c && c ≤ 'f' then some (c.toNat - 87)
  else if 'A' ≤ c && c ≤ 'F' then some (c.toNat - 55)
  else none

/-- The escapes that go on after their letter, outside a class and in it. -/
def longEscape? (c : Char) : Option EscapeRest :=
  match c with
  | 'x' => some (.hex 2 0)
  | 'u' => some (.hex 4 0)
  | 'U' => some (.hex 8 0)
  | 'N' => some .nameStart
  | '0' => some (.octal 2 0)
  | _ => none

def escapeItem (r : Reader) (c : Char) : Except Rejection Reader :=
  match place? r.top.flags.ascii c, category? c, controlEscape? c, longEscape? c with
  | some which, _, _, _ => .ok (r.place which)
  | _, some item, _, _ => .ok (r.set [item] false)
  | _, _, some code, _ => .ok (r.literal code)
  | _, _, _, some rest => .ok { r with mode := .escape rest none }
  | none, none, none, none =>
    if c.isDigit then .ok { r with mode := .escape (.number (c.toNat - 48) none) none }
    else if isAsciiLetter c then fail .badEscape
    else .ok (r.literal c.toNat)

def escapeMember (r : Reader) (cls : ClassState) (c : Char) : Except Rejection Reader :=
  match category? c, controlEscape? c, longEscape? c with
  | some item, _, _ => r.member cls item
  | _, some code, _ => r.member cls (.single code)
  | _, _, some rest => .ok { r with mode := .escape rest (some cls) }
  | none, none, none =>
    -- there are no edges of words in a class
    if c == 'b' then r.member cls (.single 8)
    else match octalValue? c with
      | some d => .ok { r with mode := .escape (.octal 2 d) (some cls) }
      | none =>
        if isAsciiLetter c || c.isDigit then fail .badEscape else r.member cls (.single c.toNat)

/-! ## One token -/

/-- A token where an item may stand. -/
def readItem (r : Reader) (t : Token) : Except Rejection Reader :=
  match t with
  | .loneBackslash => fail .loneBackslash
  | .escape c => r.escapeItem c
  | .char c =>
    if c = '|' then r.nextBranch
    else if c = ')' then r.close
    else if r.top.flags.verbose && isAsciiBlank c then .ok { r with mode := .ready }
    else if r.top.flags.verbose && c = '#' then .ok { r with mode := .comment }
    else if c = '[' then .ok { r with mode := .inClass {} }
    else if c = '?' then r.repeatLast 0 (some 1)
    else if c = '*' then r.repeatLast 0 none
    else if c = '+' then r.repeatLast 1 none
    else if c = '{' then .ok { r with mode := .brace [] none }
    else if c = '.' then
      .ok (r.push (.one (if r.top.flags.dotAll then .all else .notLineFeed)))
    else if c = '(' then .ok { r with mode := .groupStart }
    else if c = '^' then
      .ok (r.place (if r.top.flags.multiline then .lineStart else .firstLineStart))
    else if c = '$' then .ok (r.place (if r.top.flags.multiline then .lineEnd else .lastLineEnd))
    else .ok (r.literal c.toNat)

/-- A token inside a character class. -/
def readMember (r : Reader) (cls : ClassState) (t : Token) : Except Rejection Reader :=
  match cls.stage, t with
  | _, .loneBackslash => fail .loneBackslash
  | .start, .char '^' =>
    .ok { r with mode := .inClass { cls with negated := true, stage := .next } }
  | .after item, .char '-' => .ok { r with mode := .inClass { cls with stage := .dash item } }
  -- a dash at the end stands for itself
  | .dash item, .char ']' => .ok (r.closeClass cls (.single 45 :: item :: cls.items))
  | .dash _, .char c => r.member cls (.single c.toNat)
  | .dash _, .escape c => r.escapeMember cls c
  | .after item, t =>
    let cls := { cls with items := item :: cls.items, stage := .next }
    match t with
    | .char ']' => .ok (r.closeClass cls cls.items)
    | .char c => r.member cls (.single c.toNat)
    | .escape c => r.escapeMember cls c
    | .loneBackslash => fail .loneBackslash
  | _, .char c =>
    -- and so does a bracket before the first member
    if c = ']' && !cls.items.isEmpty then .ok (r.closeClass cls cls.items)
    else r.member cls (.single c.toNat)
  | _, .escape c => r.escapeMember cls c

/-- A token after the end of an escape that had no fixed length. -/
def resume (r : Reader) (t : Token) : Except Rejection Reader :=
  match r.mode with
  | .inClass cls => r.readMember cls t
  | _ => r.readItem t

/-- Ends an escape that has no fixed length; the others have to be complete. -/
def endEscape (r : Reader) (rest : EscapeRest) (cls : Option ClassState) :
    Except Rejection Reader :=
  match rest with
  | .octal _ value => if value > 255 then fail .badEscape else r.deliver cls value
  | .number first none => r.refer first
  | .number first (some second) => r.refer (10 * first + second)
  | _ => fail .badEscape

def readEscape (r : Reader) (rest : EscapeRest) (cls : Option ClassState) (t : Token) :
    Except Rejection Reader :=
  match rest, t with
  | .hex left value, .char c =>
    match hexValue? c with
    | none => fail .badEscape
    | some d =>
      let value := 16 * value + d
      if left ≤ 1 then (if value > 0x10FFFF then fail .badCodePoint else r.deliver cls value)
      else .ok { r with mode := .escape (.hex (left - 1) value) cls }
  | .octal left value, .char c =>
    match left, octalValue? c with
    | left + 1, some d => .ok { r with mode := .escape (.octal left (8 * value + d)) cls }
    | _, _ => do (← r.endEscape rest cls).resume t
  | .number first none, .char c =>
    if c.isDigit then
      .ok { r with mode := .escape (.number first (some (c.toNat - 48))) cls }
    else do (← r.endEscape rest cls).resume t
  -- three octal digits are a character, and fewer digits the number of a group
  | .number first (some second), .char c =>
    match octalValue? c with
    | some d =>
      if first < 8 && second < 8 then
        let value := 64 * first + 8 * second + d
        if value > 255 then fail .badEscape else r.deliver cls value
      else do (← r.endEscape rest cls).resume t
    | none => do (← r.endEscape rest cls).resume t
  | .nameStart, .char '{' => .ok { r with mode := .escape (.name []) cls }
  | .name read, .char '}' =>
    match characterNamed? (String.ofList read.reverse) with
    | some c => r.deliver cls c.toNat
    | none => fail .unknownCharacterName
  | .name read, t => .ok { r with mode := .escape (.name (t.text.reverse ++ read)) cls }
  | .octal _ _, _ => do (← r.endEscape rest cls).resume t
  | .number _ _, _ => do (← r.endEscape rest cls).resume t
  | _, _ => fail .badEscape

/-- A token of a repetition in braces. -/
def readBrace (r : Reader) (least : List Char) (most : Option (List Char)) (t : Token) :
    Except Rejection Reader :=
  match t, most with
  | .char ',', none => .ok { r with mode := .brace least (some []) }
  | .char c, _ =>
    if c.isDigit then
      match most with
      | none => .ok { r with mode := .brace (c :: least) none }
      | some digits => .ok { r with mode := .brace least (some (c :: digits)) }
    -- `{}` is text, `{,}` is a repetition
    else if c = '}' && !(least.isEmpty && most.isNone) then
      r.closeBrace least.reverse (most.map List.reverse)
    else (r.literals (braceText least most)).readItem t
  | _, _ => (r.literals (braceText least most)).readItem t

/-- The token after the question mark of a group's head. -/
def readGroupKind (r : Reader) (t : Token) : Except Rejection Reader :=
  match t with
  | .char 'P' => .ok { r with mode := .groupNamed }
  | .char ':' => .ok (r.enter .plain r.top.flags)
  | .char '#' => .ok { r with mode := .groupComment }
  | .char '=' => .ok (r.openLook false false)
  | .char '!' => .ok (r.openLook false true)
  | .char '<' => .ok { r with mode := .lookbehindKind }
  | .char '(' => .ok { r with mode := .groupName .condition [] }
  | .char '>' => .ok (r.enter .atomic r.top.flags)
  | .char '-' => .ok { r with mode := .turnOff .plain .plain true }
  | .char c =>
    match Flags.ofLetter? c with
    | some flag => .ok { r with mode := .turnOn flag }
    | none => fail .unknownExtension
  | _ => fail .unknownExtension

/-- A token of a name in a group's head. -/
def readGroupName (r : Reader) (use : NameUse) (read : List Char) (t : Token) :
    Except Rejection Reader :=
  let terminator := match use with
    | .capture => '>'
    | .backref | .condition => ')'
  if t = .char terminator then
    if read.isEmpty then fail .badGroupName
    else match use with
      | .capture => r.openNamed read.reverse
      | .backref => r.referNamed read.reverse
      | .condition => r.openCondition read.reverse
  else .ok { r with mode := .groupName use (t.text.reverse ++ read) }

/-- A token after the letters of modes to turn on. -/
def readTurnOn (r : Reader) (on : Flags) (t : Token) : Except Rejection Reader :=
  match t with
  | .char ')' =>
    -- modes for the whole pattern are turned on in front of everything else
    if r.outer.isEmpty && r.top.isFresh then
      .ok { r with
        inline := r.inline.union on
        top := { r.top with flags := r.top.flags.union on }
        mode := .ready }
    else fail .misplacedFlags
  | .char ':' =>
    if on.template then fail .badFlags
    else .ok (r.enter .scope (r.top.flags.within on .plain))
  | .char '-' =>
    if on.template then fail .badFlags else .ok { r with mode := .turnOff on .plain true }
  | .char c =>
    match Flags.ofLetter? c with
    | some flag =>
      let on := on.union flag
      if on.ascii && on.unicode then fail .badFlags else .ok { r with mode := .turnOn on }
    | none => fail .badFlags
  | _ => fail .badFlags

/-- A token after the letters of modes to turn off. -/
def readTurnOff (r : Reader) (on off : Flags) (isFirst : Bool) (t : Token) :
    Except Rejection Reader :=
  match t with
  | .char c =>
    if c = ':' && !isFirst then
      if off.template || on.overlaps off then fail .badFlags
      else .ok (r.enter .scope (r.top.flags.within on off))
    else
      match Flags.ofLetter? c with
      | some flag =>
        -- an alphabet is exchanged for another one, but not turned off
        if flag.ascii || flag.unicode then fail .badFlags
        else .ok { r with mode := .turnOff on (off.union flag) false }
      | none => fail .badFlags
  | _ => fail .badFlags

/-- Takes one token. -/
def step (r : Reader) (t : Token) : Except Rejection Reader :=
  if t = .loneBackslash then fail .loneBackslash
  else match r.mode with
    | .ready => r.readItem t
    | .afterRepeat =>
      if t = .char '?' then .ok (r.setGreed .reluctant)
      else if t = .char '+' then .ok (r.setGreed .possessive)
      else r.readItem t
    | .comment => .ok (if t = .char '\n' then { r with mode := .ready } else r)
    | .brace least most => r.readBrace least most t
    | .rejected cause => .error cause
    | .groupStart =>
      if t = .char '?' then .ok { r with mode := .groupKind } else r.openCapture.readItem t
    | .groupKind => r.readGroupKind t
    | .groupComment => .ok (if t = .char ')' then { r with mode := .ready } else r)
    | .groupNamed =>
      if t = .char '<' then .ok { r with mode := .groupName .capture [] }
      else if t = .char '=' then .ok { r with mode := .groupName .backref [] }
      else fail .unknownExtension
    | .lookbehindKind =>
      if t = .char '=' then .ok (r.openLook true false)
      else if t = .char '!' then .ok (r.openLook true true)
      else fail .unknownExtension
    | .groupName use read => r.readGroupName use read t
    | .turnOn on => r.readTurnOn on t
    | .turnOff on off isFirst => r.readTurnOff on off isFirst t
    | .escape rest cls => r.readEscape rest cls t
    | .inClass cls => r.readMember cls t

/-! ## The end of the pattern -/

/-- Ends what may be ended by the end of the pattern. -/
def settle (r : Reader) : Except Rejection Reader :=
  match r.mode with
  | .ready | .afterRepeat | .comment => .ok r
  | .brace least most => .ok (r.literals (braceText least most))
  | .rejected cause => .error cause
  | .escape rest none => r.endEscape rest none
  | _ => fail .unterminatedGroup

/-- All that is left to check once every group is closed. -/
def check (r : Reader) : Except Rejection Unit :=
  if !r.outer.isEmpty then fail .unterminatedGroup
  else if r.hasConflict then .error .alphabetConflict
  else if r.groupCount < r.furthestCondition then fail .unknownGroup
  else if r.unfixedLookbehind then fail .unfixedLookbehind
  else if (r.given.union r.inline).template && r.hasLoop then fail .templateRepeat
  else if r.wideLookbehind then .error .lookbehindTooWide
  else .ok ()

def finish (r : Reader) : Except Rejection Reader := do
  let r ← r.settle
  r.check
  return r

end Reader

/-- What reading a pattern yields. -/
structure Parsed where
  root : Node
  groupCount : Nat
  /-- The modes given and those the pattern turned on. -/
  flags : Flags
  /-- The least number of characters that the pattern asks for. -/
  least : Nat
  deriving Repr, DecidableEq

def Reader.result (r : Reader) : Parsed where
  root := r.top.body
  groupCount := r.groupCount
  flags := (r.given.union r.inline).settled
  least := (r.top.body.width r.groupWidth).least

/-- Reads a pattern under the given modes. -/
def parse (given : Flags) (source : List Char) : Except Rejection Parsed := do
  let r ← (Token.ofChars source).foldlM Reader.step (Reader.start given)
  return (← r.finish).result

end ProblemMatcher.Regex
