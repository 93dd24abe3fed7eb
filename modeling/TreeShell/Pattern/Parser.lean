import TreeShell.Pattern.Error
import TreeShell.Number.Reading
import TreeShell.Json.Reader
import TreeShell.Text.Identifier

/-!
# Reading a written pattern

A pattern is first cut into pieces: a backslash and the character after it are one piece. A
backslash at the very end is a mistake that is noticed as soon as the piece before it is taken, so
it wins over whatever that piece would have been refused for.

What stands in parentheses is read in two steps: what they begin (`Opening`), and then the pattern
between them. On the way the groups are counted, with their names and the widths of those that were
closed (`Groups`); a pattern can ask for a group again by these.

The readers are bounded by a number of steps. Three for each piece are enough: a piece is taken in
one step, and where it begins a group, there is a step for the group and one for its alternatives.
-/

set_option autoImplicit false

namespace TreeShell.Pattern

/-- A piece of a written pattern. -/
inductive Piece where
  | plain (c : Char)
  | escaped (c : Char)
  | dangling
deriving DecidableEq, Repr

/-- A piece as it was written. -/
def Piece.written : Piece → List Char
  | plain c => [c]
  | escaped c => ['\\', c]
  | dangling => ['\\']

/-- What is known of the groups of a pattern that keep what they match: the widths of those that
were closed, in the order in which they were opened; their names; how many there were when a look
behind was begun that is not at its end; and which were asked for by a condition, with the positions
where that was. -/
structure Groups where
  widths : List (Option (Nat × Nat)) := []
  names : List (String × Nat) := []
  behind? : Option Nat := none
  asked : List (Nat × Nat) := []

/-- What is left of a pattern: the pieces with their positions, and the position of the end. With it
goes what is known of the pattern so far: the flags that were set for the whole, and the groups. -/
structure Source where
  rest : List (Nat × Piece)
  stop : Nat
  flags : List Flag := []
  groups : Groups := {}

namespace Source

/-- The pieces of a pattern, the first one at position `i`. -/
def cut (i : Nat) : List Char → List (Nat × Piece)
  | [] => []
  | '\\' :: c :: rest => (i, .escaped c) :: cut (i + 2) rest
  | ['\\'] => [(i, .dangling)]
  | c :: rest => (i, .plain c) :: cut (i + 1) rest

/-- The position of the next piece. -/
def position (source : Source) : Nat :=
  match source.rest with
  | (i, _) :: _ => i
  | [] => source.stop

/-- The next piece. -/
def next? (source : Source) : Option Piece :=
  source.rest.head?.map Prod.snd

/-- Whether the next piece is the given character, unescaped. -/
def nextIs (source : Source) (c : Char) : Bool :=
  source.next? == some (.plain c)

/-- A source whose next piece is no lone backslash. -/
def sound (source : Source) : Except PatternError Source :=
  match source.rest with
  | (i, .dangling) :: _ => .error (.mistake .danglingEscape (some i))
  | _ => .ok source

/-- Refuses a pattern for a mistake that was begun some characters before. -/
def refuse {α : Type} (source : Source) (what : PatternMistake) (before : Nat := 0) :
    Except PatternError α :=
  .error (.mistake what (some (source.position - before)))

/-- The source after the next piece. -/
def advance (source : Source) : Except PatternError Source :=
  { source with rest := source.rest.drop 1 }.sound

/-- Up to `count` pieces that satisfy `p`, and the source after them. -/
def takeUpTo (p : Char → Bool) : Nat → Source → Except PatternError (List Char × Source)
  | 0, source => .ok ([], source)
  | count + 1, source =>
    match source.next? with
    | some (.plain c) =>
      if p c then do
        let source ← source.advance
        let (more, source) ← takeUpTo p count source
        .ok (c :: more, source)
      else .ok ([], source)
    | _ => .ok ([], source)

/-- The characters up to a closing one, and the source after that; `taken` are those so far, and
`steps` bounds how many pieces there may be. -/
def takeName (what : String) (closing : Char) :
    Nat → List Char → Source → Except PatternError (String × Source)
  | 0, taken, source => source.refuse (.openName closing) taken.length
  | steps + 1, taken, source =>
    match source.next? with
    | none =>
      if taken.isEmpty then source.refuse (.nameMissing what)
      else source.refuse (.openName closing) taken.length
    | some piece => do
      let source ← source.advance
      if piece == .plain closing then
        if taken.isEmpty then source.refuse (.nameMissing what) 1
        else return (.ofList taken, source)
      else takeName what closing steps (taken ++ piece.written) source

/-- A name up to a closing character, and the source after that. -/
def name (what : String) (closing : Char) (source : Source) :
    Except PatternError (String × Source) :=
  source.takeName what closing (source.rest.length + 1) []

/-- The source after the next piece that is the given character, or else at its end; and whether
there was such a piece. -/
def skipPast (c : Char) : Nat → Source → Except PatternError (Bool × Source)
  | 0, source => .ok (false, source)
  | steps + 1, source =>
    match source.next? with
    | none => .ok (false, source)
    | some piece => do
      let source ← source.advance
      if piece == .plain c then return (true, source) else skipPast c steps source

end Source

/-- Octal digits. -/
def isOctal (c : Char) : Bool :=
  '0' ≤ c && c ≤ '7'

/-- Hexadecimal digits. -/
def isHex (c : Char) : Bool :=
  (Json.hexValue? c).isSome

/-- The number that hexadecimal digits spell. -/
def hexNumber (digits : List Char) : Nat :=
  digits.foldl (fun n c => 16 * n + (Json.hexValue? c).getD 0) 0

/-- The number that octal digits spell. -/
def octalNumber (digits : List Char) : Nat :=
  digits.foldl (fun n c => 8 * n + (c.toNat - '0'.toNat)) 0

/-- The characters that letters stand for after a backslash, within sets and without. -/
def controlEscape? (c : Char) : Option Nat :=
  if c = 'a' then some 7
  else if c = 'f' then some 12
  else if c = 'n' then some 10
  else if c = 'r' then some 13
  else if c = 't' then some 9
  else if c = 'v' then some 11
  else if c = '\\' then some 92
  else none

/-- The classes that letters stand for after a backslash. -/
def classEscape? (c : Char) : Option SetItem :=
  if c = 'd' then some (.named .digit false)
  else if c = 'D' then some (.named .digit true)
  else if c = 's' then some (.named .space false)
  else if c = 'S' then some (.named .space true)
  else if c = 'w' then some (.named .word false)
  else if c = 'W' then some (.named .word true)
  else none

/-- The anchors that letters stand for after a backslash. -/
def anchorEscape? (c : Char) : Option Anchor :=
  if c = 'A' then some .textStart
  else if c = 'Z' then some .textEnd
  else if c = 'b' then some .wordEdge
  else if c = 'B' then some .noWordEdge
  else none

/-- How many hexadecimal digits follow a letter after a backslash. -/
def hexWidth? (c : Char) : Option Nat :=
  if c = 'x' then some 2 else if c = 'u' then some 4 else if c = 'U' then some 8 else none

/-- An escape of a character by its code point; `start` is where the backslash stands. -/
def readHexEscape (start : Nat) (c : Char) (width : Nat) (source : Source) :
    Except PatternError (Nat × Source) := do
  let (digits, source) ← source.takeUpTo isHex width
  let written := String.ofList ('\\' :: c :: digits)
  if digits.length < width then .error (.mistake (.incompleteEscape written) (some start))
  else if 0x10FFFF < hexNumber digits then .error (.mistake (.badEscape written) (some start))
  else .ok (hexNumber digits, source)

/-- An escape of a character by up to three octal digits, of which `digits` have been taken. -/
def octalValue (start : Nat) (digits : List Char) : Except PatternError Nat :=
  if 0o377 < octalNumber digits then
    .error (.mistake (.octalTooLarge (.ofList ('\\' :: digits))) (some start))
  else .ok (octalNumber digits)

/-- A character after a backslash that has no meaning of its own stands for itself, unless it is a
seven-bit letter. -/
def plainEscape (start : Nat) (c : Char) : Except PatternError Nat :=
  if c.isAlpha then .error (.mistake (.badEscape (.ofList ['\\', c])) (some start)) else .ok c.toNat

/-- An escape of a character by its name in braces. -/
def readNamedEscape (named : String → Option Nat) (source : Source) :
    Except PatternError (Nat × Source) := do
  if !source.nextIs '\x7b' then source.refuse .openBraceMissing
  else
    let (name, source) ← (← source.advance).name "character name" '\x7d'
    match named name with
    | some code => return (code, source)
    | none => source.refuse (.unknownCharacter name) (name.length + 4)

/-- An escape within a set; the source is past the two characters of the piece. -/
def readSetEscape (named : String → Option Nat) (start : Nat) (c : Char) (source : Source) :
    Except PatternError (SetItem × Source) := do
  if c = 'b' then return (.code 8, source)
  if let some code := controlEscape? c then return (.code code, source)
  if let some item := classEscape? c then return (item, source)
  if let some width := hexWidth? c then
    let (code, source) ← readHexEscape start c width source
    return (.code code, source)
  if c = 'N' then
    let (code, source) ← readNamedEscape named source
    return (.code code, source)
  if isOctal c then
    let (digits, source) ← source.takeUpTo isOctal 2
    return (.code (← octalValue start (c :: digits)), source)
  if c.isDigit then throw (.mistake (.badEscape (.ofList ['\\', c])) (some start))
  return (.code (← plainEscape start c), source)

/-! ## Groups -/

namespace Groups

/-- How many groups there are, the whole pattern being one. -/
def count (groups : Groups) : Nat :=
  groups.widths.length + 1

/-- The width of a group, if that was closed. -/
def width? (groups : Groups) (number : Nat) : Option (Nat × Nat) :=
  if number = 0 then none else (groups.widths[number - 1]?).join

/-- The width of a pattern, all of whose groups that it asks for were closed. -/
def widthOf (groups : Groups) (p : Pattern) : Nat × Nat :=
  p.width fun number => (groups.width? number).getD (0, 0)

end Groups

namespace Source

/-- The source with a group closed that matches a pattern. -/
def closeGroup (source : Source) (number : Nat) (p : Pattern) : Source :=
  let groups := source.groups
  { source with groups := { groups with
      widths := groups.widths.set (number - 1) (some (groups.widthOf p)) } }

/-- The number of a new group, and the source with that group open. A name may be taken. -/
def openGroup (source : Source) (name? : Option String) : Except PatternError (Nat × Source) :=
  let groups := source.groups
  let number := groups.count
  let groups := { groups with widths := groups.widths ++ [none] }
  match name? with
  | none => .ok (number, { source with groups })
  | some name =>
    match groups.names.lookup name with
    | some before => source.refuse (.groupNameTaken name number before) (name.length + 1)
    | none =>
      let names := (name, number) :: groups.names
      .ok (number, { source with groups := { groups with names } })

/-- Within a look behind, a group can be asked for only if it was closed before that was begun. -/
def checkBehind (source : Source) (number : Nat) : Except PatternError Unit :=
  match source.groups.behind? with
  | none => .ok ()
  | some count =>
    if (source.groups.width? number).isNone then source.refuse .groupNotClosed
    else if count ≤ number then source.refuse .groupOfSameBehind
    else .ok ()

/-- A group is asked for again, which was begun to be written some characters before. It has to be
closed. -/
def askAgain (source : Source) (number before : Nat) : Except PatternError Unit :=
  if (source.groups.width? number).isNone then source.refuse .groupNotClosed before
  else source.checkBehind number

end Source

/-! ## Escapes outside of sets -/

/-- A number after a backslash that is no octal escape: the group with the number, which is to be
there. -/
def readAgain (digits : List Char) (source : Source) : Except PatternError (Pattern × Source) := do
  let number := Number.digitsValue digits
  if number < source.groups.count then
    source.askAgain number (digits.length + 1)
    return (.again number, source)
  else source.refuse (.unknownGroup number) digits.length

/-- An escape outside of sets; the source is past the two characters of the piece. -/
def readEscape (named : String → Option Nat) (start : Nat) (c : Char) (source : Source) :
    Except PatternError (Pattern × Source) := do
  if let some place := anchorEscape? c then return (.anchor place, source)
  if let some item := classEscape? c then return (.oneOf false [item], source)
  if let some code := controlEscape? c then return (.literal code, source)
  if let some width := hexWidth? c then
    let (code, source) ← readHexEscape start c width source
    return (.literal code, source)
  if c = 'N' then
    let (code, source) ← readNamedEscape named source
    return (.literal code, source)
  if c = '0' then
    let (digits, source) ← source.takeUpTo isOctal 2
    return (.literal (octalNumber (c :: digits)), source)
  if c.isDigit then
    let (second, source) ← source.takeUpTo Char.isDigit 1
    if isOctal c && !second.isEmpty && second.all isOctal then
      let (third, source) ← source.takeUpTo isOctal 1
      if !third.isEmpty then
        return (.literal (← octalValue start (c :: second ++ third)), source)
    readAgain (c :: second) source
  else return (.literal (← plainEscape start c), source)

/-! ## Sets -/

/-- One end of a range, or a member by itself. -/
def readSetItem (named : String → Option Nat) (start : Nat) (piece : Piece) (source : Source) :
    Except PatternError (SetItem × Source) :=
  match piece with
  | .plain c => .ok (.code c.toNat, source)
  | .escaped c => readSetEscape named start c source
  | .dangling => .error (.mistake .danglingEscape (some start))

/-- The members of a set up to its closing bracket; `opening` is where the set begins, and `items`
are the members so far, last first. A bracket that closes is a member as long as there is none. -/
def readSetItems (named : String → Option Nat) (opening : Nat) :
    Nat → List SetItem → Source → Except PatternError (List SetItem × Source)
  | 0, _, _ => .error (.mistake .openSet (some opening))
  | steps + 1, items, source =>
    match source.next? with
    | none => .error (.mistake .openSet (some opening))
    | some piece => do
      let start := source.position
      let source ← source.advance
      if piece == .plain ']' && !items.isEmpty then return (items.reverse, source)
      let (low, source) ← readSetItem named start piece source
      if source.nextIs '-' then
        let source ← source.advance
        match source.next? with
        | none => .error (.mistake .openSet (some opening))
        | some last =>
          let lastStart := source.position
          let source ← source.advance
          if last == .plain ']' then return ((.code '-'.toNat :: low :: items).reverse, source)
          let (high, source) ← readSetItem named lastStart last source
          let refused : Except PatternError (List SetItem × Source) :=
            source.refuse (.badRange (.ofList piece.written) (.ofList last.written))
              (piece.written.length + 1 + last.written.length)
          match low, high with
          | .code low, .code high =>
            if high < low then refused
            else readSetItems named opening steps (.range low high :: items) source
          | _, _ => refused
      else readSetItems named opening steps (low :: items) source

/-! ## Repetitions -/

/-- The counts of a repetition in braces as they were written, when what follows the opening brace
spells them. -/
def readCounts (source : Source) :
    Except PatternError (Option (List Char × List Char × Source)) := do
  let width := source.rest.length
  let (low, after) ← source.takeUpTo Char.isDigit width
  if after.nextIs ',' then
    let (high, after) ← (← after.advance).takeUpTo Char.isDigit width
    if after.nextIs '\x7d' then return some (low, high, ← after.advance)
    else return none
  else if after.nextIs '\x7d' && !low.isEmpty then return some (low, low, ← after.advance)
  else return none

/-- Counts at least this large are refused. -/
def countLimit : Nat := 4294967295

/-- The count that digits spell, if there are any. -/
def countOf (digits : List Char) : Except PatternError (Option Nat) :=
  if digits.isEmpty then .ok none
  else if Number.maxIntegerDigits < digits.length then .error (.countTooLong digits.length)
  else if countLimit ≤ Number.digitsValue digits then .error .countTooLarge
  else .ok (some (Number.digitsValue digits))

/-- The last pattern of a sequence, repeated. `start` is where the sign of repetition stands, and
`items` are the patterns so far, last first. -/
def repeatLast (start : Nat) (least : Nat) (most : Option Nat) (items : List Pattern)
    (source : Source) : Except PatternError (List Pattern × Source) :=
  match items with
  | [] => .error (.mistake .nothingToRepeat (some start))
  | .anchor _ :: _ => .error (.mistake .nothingToRepeat (some start))
  | .repeats .. :: _ => .error (.mistake .repeatedRepeat (some start))
  | item :: others => do
    if source.nextIs '?' then
      return (.repeats item least most .sparing :: others, ← source.advance)
    else if source.nextIs '+' then
      return (.repeats item least most .possessive :: others, ← source.advance)
    else return (.repeats item least most .greedy :: others, source)

/-- A brace as the sign of repetition, or as itself when it is none. -/
def readBraces (start : Nat) (items : List Pattern) (source : Source) :
    Except PatternError (List Pattern × Source) := do
  if source.nextIs '\x7d' then return (.literal '\x7b'.toNat :: items, source)
  match ← readCounts source with
  | none => return (.literal '\x7b'.toNat :: items, source)
  | some (low, high, after) =>
    let least := (← countOf low).getD 0
    let most ← countOf high
    if most.any (· < least) then throw (.mistake .repeatBounds (some (start + 1)))
    repeatLast start least most items after

/-! ## Flags -/

/-- The flag that a letter stands for. -/
def Piece.flag? : Piece → Option Flag
  | plain c =>
    [('i', Flag.ignoreCase), ('L', .locale), ('m', .multiline), ('s', .dotAll), ('x', .verbose),
      ('a', .ascii), ('t', .template), ('u', .unicode)].lookup c
  | _ => none

/-- Whether a flag chooses the type of the characters. -/
def isTypeFlag : Flag → Bool
  | .locale | .ascii | .unicode => true
  | _ => false

/-- How the letters of some flags are read: what is missing when they go no further, which
characters end them, and what can be wrong with a flag behind others. -/
structure FlagLetters where
  missing : List Flag → FlagMistake
  ends : List Flag → List Char
  wrong? : List Flag → Flag → Option FlagMistake

/-- The flags to be turned on. -/
def flagsOn : FlagLetters where
  missing _ := .unfinished
  ends _ := [')', '-', ':']
  wrong? others flag :=
    if flag = .locale then some .locale
    else if isTypeFlag flag && others.any (fun other => isTypeFlag other && other != flag) then
      some .twoTypes
    else none

/-- The flags to be turned off, of which there is at least one. -/
def flagsOff : FlagLetters where
  missing others := if others.isEmpty then .noneOff else .unfinishedOff
  ends others := if others.isEmpty then [] else [':']
  wrong? _ flag := if isTypeFlag flag then some .typeOff else none

/-- The letters of flags up to a character that ends them; `flags` are those so far. -/
def readFlagLetters (letters : FlagLetters) :
    Nat → List Flag → Source → Except PatternError (List Flag × Piece × Source)
  | 0, flags, source => source.refuse (.flags (letters.missing flags))
  | steps + 1, flags, source =>
    match source.next? with
    | none => source.refuse (.flags (letters.missing flags))
    | some piece => do
      let source ← source.advance
      if (letters.ends flags).any (piece == .plain ·) then return (flags, piece, source)
      match piece.flag? with
      | some flag =>
        match letters.wrong? flags flag with
        | some what => source.refuse (.flags what)
        | none => readFlagLetters letters steps (flags ++ [flag]) source
      | none =>
        let isLetter := piece.written.all Text.isLetter
        source.refuse (.flags (if isLetter then .unknown else letters.missing flags))
          piece.written.length

/-! ## What parentheses begin -/

/-- What is done with the pattern between two parentheses. -/
inductive GroupKind where
  | capture (name? : Option String)
  | flagged (on off : List Flag)
  | atomic
  | ahead (negated : Bool)
  | behind (negated : Bool)
  | condition (number : Nat)
deriving DecidableEq, Repr

/-- What an opening parenthesis begins: a group, of which the pattern and the closing parenthesis
are still to be read; or something that has been read with its closing parenthesis. -/
inductive Opening where
  | group (kind : GroupKind)
  | again (number : Nat)
  | comment
  | flagsForAll
deriving DecidableEq, Repr

/-- Flags in parentheses, for the whole pattern or for a part of it. -/
def readFlags (source : Source) : Except PatternError (Opening × Source) := do
  let (on, ending, source) ← readFlagLetters flagsOn (source.rest.length + 1) [] source
  if ending == .plain ')' then
    return (.flagsForAll, { source with flags := source.flags ++ on })
  if on.contains .template then source.refuse (.flags .wholeOn) 1
  let (off, source) ←
    if ending == .plain '-' then do
      let (off, _, source) ← readFlagLetters flagsOff (source.rest.length + 1) [] source
      pure (off, source)
    else pure ([], source)
  if off.contains .template then source.refuse (.flags .wholeOff) 1
  if on.any off.contains then source.refuse (.flags .onAndOff) 1
  return (.group (.flagged on off), source)

/-- The name of a group up to a closing character. -/
def readGroupName (closing : Char) (source : Source) : Except PatternError (String × Source) := do
  let (name, source) ← source.name "group name" closing
  if Text.isIdentifier name then return (name, source)
  else source.refuse (.badGroupName name) (name.length + 1)

/-- The group that has a name; the source is past the name and one character more. -/
def Source.groupNamed (source : Source) (name : String) : Except PatternError Nat :=
  match source.groups.names.lookup name with
  | some number => .ok number
  | none => source.refuse (.unknownGroupName name) (name.length + 1)

/-- What a name of a group is given for: to a group that begins, or to ask for the group again. -/
def readNamedGroup (source : Source) : Except PatternError (Opening × Source) := do
  if source.nextIs '<' then
    let (name, source) ← readGroupName '>' (← source.advance)
    return (.group (.capture (some name)), source)
  else if source.nextIs '=' then
    let (name, source) ← readGroupName ')' (← source.advance)
    let number ← source.groupNamed name
    source.askAgain number (name.length + 1)
    return (.again number, source)
  else
    match source.next? with
    | none => source.refuse .unexpectedEnd
    | some other =>
      (← source.advance).refuse (.unknownExtension (.ofList ('P' :: other.written)))
        (other.written.length + 2)

/-- There are fewer groups than this. -/
def groupLimit : Nat := 1073741823

/-- The source, where a condition asked for a group some characters before. Of several times the
first one is kept. -/
def Source.asking (source : Source) (number before : Nat) : Source :=
  let groups := source.groups
  if (groups.asked.lookup number).isSome then source
  else
    { source with groups := { groups with
        asked := groups.asked ++ [(number, source.position - before)] } }

/-- A condition, which is that a group has matched. The group goes by its name or its number, and
need not have begun yet. -/
def readCondition (source : Source) : Except PatternError (Opening × Source) := do
  let (name, source) ← source.name "group name" ')'
  let before := name.length + 1
  let (number, source) ←
    if Text.isIdentifier name then do
      let number ← source.groupNamed name
      pure (number, source)
    else
      match Number.integer name with
      | .ok (.ofNat number) =>
        if number = 0 then source.refuse .groupZero before
        else if groupLimit ≤ number then source.refuse (.unknownGroup number) before
        else pure (number, source.asking number before)
      | _ => source.refuse (.badGroupName name) before
  source.checkBehind number
  return (.group (.condition number), source)

/-- A look behind. -/
def readBehind (source : Source) : Except PatternError (Opening × Source) := do
  match source.next? with
  | none => source.refuse .unexpectedEnd
  | some piece =>
    let source ← source.advance
    if piece == .plain '=' then return (.group (.behind false), source)
    else if piece == .plain '!' then return (.group (.behind true), source)
    else
      source.refuse (.unknownExtension (.ofList ('<' :: piece.written)))
        (piece.written.length + 2)

/-- A comment in parentheses, the first of which stands at `start`. -/
def readComment (start : Nat) (source : Source) : Except PatternError (Opening × Source) := do
  let (closed, source) ← source.skipPast ')' (source.rest.length + 1)
  if closed then return (.comment, source) else throw (.mistake .openComment (some start))

/-- What an opening parenthesis begins that stands at `start`. -/
def readOpening (start : Nat) (source : Source) : Except PatternError (Opening × Source) := do
  if !source.nextIs '?' then return (.group (.capture none), source)
  let source ← source.advance
  match source.next? with
  | none => source.refuse .unexpectedEnd
  | some piece =>
    if piece == .plain '-' || piece.flag?.isSome then readFlags source
    else
      let source ← source.advance
      match piece with
      | .plain ':' => return (.group (.flagged [] []), source)
      | .plain '>' => return (.group .atomic, source)
      | .plain '=' => return (.group (.ahead false), source)
      | .plain '!' => return (.group (.ahead true), source)
      | .plain '<' => readBehind source
      | .plain '(' => readCondition source
      | .plain 'P' => readNamedGroup source
      | .plain '#' => readComment start source
      | other =>
        source.refuse (.unknownExtension (.ofList other.written)) (other.written.length + 1)

/-! ## The pattern -/

/-- Where patterns are read: the first alternative of the whole, which alone can have flags for the
whole at its beginning; another alternative of it; or within a group. -/
inductive Level where
  | first
  | later
  | inner
deriving DecidableEq, Repr

/-- How patterns are read: which names characters have, at which level, and whether blanks and
comments are only there for the reader. -/
structure Reading where
  named : String → Option Nat
  level : Level
  verbose : Bool

/-- The white space that is only there for the reader. -/
def layoutChars : List Char :=
  [' ', '\t', '\n', '\r', '\x0b', '\x0c']

/-- The source after a closing parenthesis, for an opening one at `start`. -/
def Source.close (start : Nat) (source : Source) : Except PatternError Source :=
  if source.nextIs ')' then source.advance else .error (.mistake .openGroup (some start))

/-- The source within a look behind, or after one, where `behind?` was known before it. -/
def Source.withBehind (behind? : Option Nat) (source : Source) : Source :=
  { source with groups := { source.groups with behind? } }

mutual

/-- Alternatives, up to the end or a closing parenthesis. -/
def readAlternatives : Nat → Reading → Source → Except PatternError (Pattern × Source)
  | 0, _, source => .ok (.empty, source)
  | steps + 1, r, source => do
    let (first, source) ← readSequence steps r [] source
    if source.nextIs '|' then
      let r :=
        if r.level = .inner then r
        else { r with level := .later, verbose := source.flags.contains .verbose }
      let (others, source) ← readAlternatives steps r (← source.advance)
      return (.alt first others, source)
    else return (first, source)

/-- Patterns one after another, up to the end, a bar or a closing parenthesis; `items` are the
patterns so far, last first. -/
def readSequence : Nat → Reading → List Pattern → Source → Except PatternError (Pattern × Source)
  | 0, _, items, source => .ok (.sequence items.reverse, source)
  | steps + 1, r, items, source =>
    match source.next? with
    | none => .ok (.sequence items.reverse, source)
    | some .dangling => source.refuse .danglingEscape
    | some (.escaped c) => do
      let start := source.position
      let (item, source) ← readEscape r.named start c (← source.advance)
      readSequence steps r (item :: items) source
    | some (.plain c) => do
      if c = '|' || c = ')' then return (.sequence items.reverse, source)
      let start := source.position
      let source ← source.advance
      if r.verbose && layoutChars.contains c then readSequence steps r items source
      else if r.verbose && c = '#' then
        let (_, source) ← source.skipPast '\n' (source.rest.length + 1)
        readSequence steps r items source
      else if c = '[' then
        let negated := source.nextIs '^'
        let source ← if negated then source.advance else .ok source
        let (members, source) ← readSetItems r.named start (source.rest.length + 1) [] source
        readSequence steps r (.oneOf negated members :: items) source
      else if c = '*' then
        let (items, source) ← repeatLast start 0 none items source
        readSequence steps r items source
      else if c = '+' then
        let (items, source) ← repeatLast start 1 none items source
        readSequence steps r items source
      else if c = '?' then
        let (items, source) ← repeatLast start 0 (some 1) items source
        readSequence steps r items source
      else if c = '\x7b' then
        let (items, source) ← readBraces start items source
        readSequence steps r items source
      else if c = '.' then readSequence steps r (.anyChar :: items) source
      else if c = '^' then readSequence steps r (.anchor .lineStart :: items) source
      else if c = '$' then readSequence steps r (.anchor .lineEnd :: items) source
      else if c = '(' then
        let (opening, source) ← readOpening start source
        match opening with
        | .comment => readSequence steps r items source
        | .again number => readSequence steps r (.again number :: items) source
        | .flagsForAll =>
          if r.level = .first && items.isEmpty then
            readSequence steps { r with verbose := source.flags.contains .verbose } items source
          else throw (.mistake (.flags .late) (some start))
        | .group kind =>
          let (p, source) ← readGroup steps { r with level := .inner } start kind source
          readSequence steps r (p :: items) source
      else readSequence steps r (.literal c.toNat :: items) source

/-- The group that an opening parenthesis at `start` begins. -/
def readGroup :
    Nat → Reading → Nat → GroupKind → Source → Except PatternError (Pattern × Source)
  | 0, _, start, _, _ => .error (.mistake .openGroup (some start))
  | steps + 1, r, start, kind, source =>
    match kind with
    | .capture name? => do
      let (number, source) ← source.openGroup name?
      let (inner, source) ← readAlternatives steps r source
      return (.capture number inner, (← source.close start).closeGroup number inner)
    | .flagged on off => do
      let verbose := (r.verbose || on.contains .verbose) && !off.contains .verbose
      let (inner, source) ← readAlternatives steps { r with verbose } source
      return (.flagged on off inner, ← source.close start)
    | .atomic => do
      let (inner, source) ← readAlternatives steps r source
      return (.atomic inner, ← source.close start)
    | .ahead negated => do
      let (inner, source) ← readAlternatives steps r source
      return (.ahead negated inner, ← source.close start)
    | .behind negated => do
      let outside := source.groups.behind?
      let within := source.withBehind (some (outside.getD source.groups.count))
      let (inner, source) ← readAlternatives steps r within
      let source ← (source.withBehind outside).close start
      let (least, most) := source.groups.widthOf inner
      return (.behind negated least most inner, source)
    | .condition number => do
      let (yes, source) ← readSequence steps r [] source
      let (no, source) ←
        if source.nextIs '|' then do
          let (no, source) ← readSequence steps r [] (← source.advance)
          if source.nextIs '|' then source.refuse .thirdBranch
          pure (no, source)
        else pure (.empty, source)
      return (.condition number yes no, ← source.close start)

end

/-- The greatest width by which one can look behind. -/
def maxBehind : Nat := 4294967295

/-- The first thing in a pattern, from the outside in, that cannot be carried out; in a template no
repetition can. -/
def refused? (template : Bool) : Pattern → Option PatternMistake
  | empty | literal _ | anyChar | oneOf .. | anchor _ | again _ => none
  | capture _ inner | flagged _ _ inner | atomic inner | ahead _ inner => inner.refused? template
  | behind _ least most inner =>
    if maxBehind < least then some .tooFarBehind
    else if least ≠ most then some .widthVaries
    else inner.refused? template
  | condition _ first second | alt first second | seq first second =>
    (first.refused? template).or (second.refused? template)
  | repeats inner _ _ greed =>
    if template then some (.repeatInTemplate greed) else inner.refused? template

/-- A pattern that was read up to the end, with the flags for the whole, if nothing is wrong with
it. -/
def finished (p : Pattern) (source : Source) : Except PatternError Pattern :=
  let flags := source.flags
  let groups := source.groups
  if flags.contains .ascii && flags.contains .unicode then .error .twoTypes
  else if !source.rest.isEmpty then source.refuse .unbalancedGroup
  else
    match groups.asked.find? (groups.count ≤ ·.1), p.refused? (flags.contains .template) with
    | some (number, position), _ => .error (.mistake (.unknownGroup number) (some position))
    | none, some what => .error (.mistake what none)
    | none, none => .ok (if flags.isEmpty then p else .flagged flags [] p)

/-- The pattern a text spells. Which code points have names is for `named` to say. -/
def parse (text : String) (named : String → Option Nat := fun _ => none) :
    Except PatternError Pattern := do
  let source ← Source.sound ⟨Source.cut 0 text.toList, text.length, [], {}⟩
  let (p, source) ←
    readAlternatives (3 * source.rest.length + 3) ⟨named, .first, false⟩ source
  finished p source

end TreeShell.Pattern
