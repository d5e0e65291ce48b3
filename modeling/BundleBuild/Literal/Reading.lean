/-
Reading literals by their rules. A literal is read once as it should be; when that fails it is read a
second time with the alternatives that describe mistakes, to find what to say about it. Whatever the
reading found, a flaw of the tokens behind it comes first.
-/
import BundleBuild.Literal.Grammar
import BundleBuild.Literal.Pattern

namespace BundleBuild.Literal

/-- Why the reading of a literal stops. -/
inductive Stop where
  | flaw (f : Flaw)
  /-- The tokens ended, with this flaw. -/
  | ended (f : Flaw)
  /-- What fills a place in a text has this flaw. -/
  | inner (f : Flaw)
  /-- The rules are nested too deep. -/
  | exhausted
  deriving DecidableEq, Repr

/-- The outcome of a rule at some place: what it built, and where it ended. -/
structure Finding where
  rule : Rule
  term : Option Term
  after : Nat

/-- Where a reading stands. -/
structure Place where
  position : Nat := 0
  /-- How many tokens were looked at. -/
  seen : Nat := 0
  /-- The outcomes found at each position. -/
  findings : Array (List Finding)

/-- What is read. -/
structure Source where
  tokens : Array Token
  ending : Ending
  /-- Whether this fills a place in a text. -/
  isPlace : Bool
  /-- Looks at what fills a place in a text. -/
  check : List Char → Except (Option Flaw) Unit

abbrev Reader := ReaderT Source (EStateM Stop Place)

/-- How deep rules may be nested. -/
def depthLimit : Nat := 6000

/-- The token at the place; the end of the tokens is looked at only when it is reached. -/
def look : Reader Token := do
  let source ← read
  let place ← get
  match source.tokens[place.position]? with
  | some token =>
    if place.seen ≤ place.position then set { place with seen := place.position + 1 }
    pure token
  | none => match source.ending with
    | .whole => throw (.flaw .malformed)
    | .wrong flaw => throw (.ended flaw)
    | .cut flaw _ _ => throw (.ended flaw)

def goTo (position : Nat) : Reader Unit :=
  modify fun place => { place with position }

/-- Takes the token when it has a form. -/
def takeToken (form : Lexeme → Option Term) : Reader (Option Term) := do
  let token ← look
  match form token.lexeme with
  | some t => do
    modify fun place => { place with position := place.position + 1 }
    pure (some t)
  | none => pure none

/-- What was found for a rule at the place; the place moves behind it. -/
def recollect (r : Rule) : Reader (Option (Option Term)) := do
  let _ ← look
  let place ← get
  match (place.findings.getD place.position []).find? (·.rule = r) with
  | some finding => do
    goTo finding.after
    pure (some finding.term)
  | none => pure none

/-- Keeps what was found for a rule at a position. -/
def keep (start : Nat) (finding : Finding) : Reader Unit :=
  modify fun place =>
    { place with
      findings := place.findings.modify start fun known =>
        finding :: known.filter (·.rule ≠ finding.rule) }

/-- Rules at the limit are not entered. -/
def enter (depth : Nat) : Reader Unit :=
  if depth = depthLimit then throw .exhausted else pure ()

/-- What an alternative's items came to. -/
inductive Match where
  | all (ts : List Term)
  | part (isCommitted : Bool)

/-- What becomes of the join of some texts. -/
def settleJoin : Except Problem Term → Reader (Option Term)
  | .ok t => pure (some t)
  | .error (.own flaw) => throw (.flaw flaw)
  | .error (.inner (some flaw)) => throw (.inner flaw)
  | .error (.inner none) => throw .exhausted

/-- What becomes of a verdict. -/
def settle : Verdict → Reader (Option Term)
  | .accept t => pure (some t)
  | .reject => pure none
  | .refuse flaw => throw (.flaw flaw)
  | .refuseInside flaw => do
    let source ← read
    let place ← get
    match source.tokens[place.position - 1]? with
    | some token => if token.level = 0 then pure none else throw (.flaw flaw)
    | none => pure none
  | .join qs => do
    let source ← read
    settleJoin (joinTexts source.check true false qs)

def lexemeTerm? : Lexeme → Option Term
  | .number n => some (.number n)
  | _ => none

def nameTerm? : Lexeme → Option Term
  | .name word => some (.name word)
  | _ => none

def halfReservedTerm? : Lexeme → Option Term
  | .name word => if ["_", "case", "match"].contains word then some (.name word) else none
  | _ => none

def textTerm? : Lexeme → Option Term
  | .text q => some (.quoted q)
  | _ => none

def signTerm? (spelling : String) : Lexeme → Option Term
  | .sign s => if s = spelling then some (.mark s) else none
  | _ => none

def plainTerm? (lexeme : Lexeme) (l : Lexeme) : Option Term :=
  if l = lexeme then some .absent else none

/-- A number; one that is too long is refused only here. -/
def takeNumber : Reader (Option Term) := do
  let token ← look
  match token.lexeme with
  | .longNumber digits => throw (.flaw (.longNumber digits))
  | _ => takeToken lexemeTerm?

mutual

/-- Reads by a rule. -/
def readRule : Nat → Bool → Nat → Rule → Reader (Option Term)
  | 0, _, _, _ => throw .exhausted
  | fuel + 1, isSearch, depth, r => do
    enter depth
    let isSearch := isSearch && r ≠ .plainExpression
    match r.keeping with
    | .fresh => readChoice fuel isSearch (depth + 1) r.alternatives
    | .kept =>
      match ← recollect r with
      | some found => pure found
      | none => do
        let start := (← get).position
        let found ← readChoice fuel isSearch (depth + 1) r.alternatives
        keep start ⟨r, found, (← get).position⟩
        pure found
    | .growing =>
      match ← recollect r with
      | some found => pure found
      | none => do
        let start := (← get).position
        grow fuel isSearch (depth + 1) r start none start

/-- Reads by a rule that starts with itself: what was found so far stands in for it. -/
def grow : Nat → Bool → Nat → Rule → Nat → Option Term → Nat → Reader (Option Term)
  | 0, _, _, _, _, _, _ => throw .exhausted
  | fuel + 1, isSearch, depth, r, start, best, after => do
    keep start ⟨r, best, after⟩
    goTo start
    enter depth
    let found ← readChoice fuel isSearch (depth + 1) r.alternatives
    let now := (← get).position
    if found.isSome && after < now then grow fuel isSearch depth r start found now
    else do
      goTo after
      pure best

/-- Reads by the first alternative that fits. -/
def readChoice : Nat → Bool → Nat → List Alternative → Reader (Option Term)
  | 0, _, _, _ => throw .exhausted
  | _ + 1, _, _, [] => pure none
  | fuel + 1, isSearch, depth, .mk items build isMistake :: rest => do
    if isMistake && !isSearch then readChoice fuel isSearch depth rest
    else do
      let start := (← get).position
      match ← readItems fuel isSearch depth items with
      | .all ts => settle (build ts)
      | .part isCommitted => do
        goTo start
        if isCommitted then pure none else readChoice fuel isSearch depth rest

def readItems : Nat → Bool → Nat → List Item → Reader Match
  | 0, _, _, _ => throw .exhausted
  | _ + 1, _, _, [] => pure (.all [])
  | fuel + 1, isSearch, depth, .commit :: rest => do
    match ← readItems fuel isSearch depth rest with
    | .all ts => pure (.all ts)
    | .part _ => pure (.part true)
  | fuel + 1, isSearch, depth, item :: rest => do
    match ← readItem fuel isSearch depth item with
    | none => pure (.part false)
    | some first =>
      match ← readItems fuel isSearch depth rest with
      | .all ts => pure (.all (first ++ ts))
      | .part isCommitted => pure (.part isCommitted)

/-- Reads an item; one that only looks ahead builds nothing. -/
def readItem : Nat → Bool → Nat → Item → Reader (Option (List Term))
  | 0, _, _, _ => throw .exhausted
  | fuel + 1, isSearch, depth, item => do
    let one (t : Option Term) : Option (List Term) := t.map ([·])
    match item with
    | .sign spelling => return one (← takeToken (signTerm? spelling))
    | .name => return one (← takeToken nameTerm?)
    | .halfReserved => return one (← takeToken halfReservedTerm?)
    | .number => return one (← takeNumber)
    | .text => return one (← takeToken textTerm?)
    | .newline => return one (← takeToken (plainTerm? .newline))
    | .finish => return one (← takeToken (plainTerm? .finish))
    | .rule r => return one (← readRule fuel isSearch depth r)
    | .choice alternatives => do
      enter depth
      return one (← readChoice fuel isSearch (depth + 1) alternatives)
    | .optional i =>
      match ← readItem fuel isSearch depth i with
      | some ts => pure (some ts)
      | none => pure (some [.absent])
    | .many i => do
      enter depth
      return some [.several (← readMany fuel isSearch (depth + 1) [] i)]
    | .some i => do
      enter depth
      match ← readMany fuel isSearch (depth + 1) [] i with
      | [] => pure none
      | ts => pure (some [.several ts])
    | .listed i => do
      enter depth
      match ← readItem fuel isSearch (depth + 1) i with
      | none => pure none
      | some first => do
        enter (depth + 1)
        let more ← readMany fuel isSearch (depth + 2) [.sign ","] i
        pure (some [.several (first ++ more)])
    | .ahead i => do
      let start := (← get).position
      let found ← readItem fuel isSearch depth i
      goTo start
      return found.map fun _ => []
    | .notAhead i => do
      let start := (← get).position
      let found ← readItem fuel isSearch depth i
      goTo start
      return if found.isSome then none else some []
    | .commit => pure (some [])

/-- Reads an item as often as it comes, each time behind other items that build nothing. -/
def readMany : Nat → Bool → Nat → List Item → Item → Reader (List Term)
  | 0, _, _, _, _ => throw .exhausted
  | fuel + 1, isSearch, depth, before, item => do
    let start := (← get).position
    match ← readItems fuel isSearch depth (before ++ [item]) with
    | .part _ => do
      goTo start
      pure []
    | .all ts => do
      let more ← readMany fuel isSearch depth before item
      pure (ts.drop before.length ++ more)

end

/-- A bound on all steps that lead to a place, which the limit on depth always reaches first. -/
def stepLimit (s : Source) : Nat :=
  40 * depthLimit + 4 * s.tokens.size

/-- Reads all of a literal, or what fills a place. -/
def Source.read (s : Source) (isSearch : Bool) (seen : Nat) :
    EStateM.Result Stop Place (Option Term) :=
  (readRule (stepLimit s) isSearch 0 (if s.isPlace then .place else .whole)).run s
    { seen, findings := Array.replicate (s.tokens.size + 1) [] }

/-- A flaw as it is told of what fills a place. -/
def Source.told (s : Source) (flaw : Flaw) : Flaw :=
  if s.isPlace then .inPlace flaw else flaw

/-- A flaw found by the rules gives way to one of the tokens. -/
def Source.orToken (s : Source) (flaw : Flaw) (seen : Nat) : Flaw :=
  match s.ending with
  | .whole => flaw
  | .wrong f => f
  | .cut _ none _ => flaw
  | .cut _ (some b) _ =>
    match s.tokens[seen - 1]? with
    | some token => if b.line < token.line then s.told (.neverClosed b.char) else flaw
    | none => flaw

/-- Whether nothing is left behind the tokens looked at, and the last of them showed it. -/
def Source.isAtEnd (s : Source) (seen : Nat) : Bool :=
  match s.ending with
  | .cut _ _ isTouched => isTouched && seen = s.tokens.size
  | _ => false

/-- Why a literal has no term: a flaw of its spelling, or `none` when it is nested too deep. -/
def Source.flawOf (s : Source) (why : Stop) (place : Place) : Option Flaw :=
  let settled (f : Flaw) : Flaw := if s.isAtEnd place.seen then f else s.orToken f place.seen
  match why with
  | .exhausted => none
  | .ended f => match s.ending with
    | .wrong _ => some f
    | _ => some (s.told f)
  | .flaw f => some (settled (s.told f))
  | .inner f => some (settled f)

/-- The term that a source stands for, or why there is none. -/
def Source.term (s : Source) : Except (Option Flaw) Term :=
  match s.read false 0 with
  | .error why place => .error (s.flawOf why place)
  | .ok (some t) _ => .ok t
  | .ok none place =>
    match s.read true place.seen with
    | .error why place => .error (s.flawOf why place)
    | .ok _ after =>
      match (s.tokens[place.seen - 1]?).map Token.lexeme with
      | some .indent => .error (some (s.told .indented))
      | _ => .error (some (s.orToken (s.told .malformed) after.seen))

/-- The term of a literal, or of what fills a place in a text. Places are shorter than the texts they
stand in. -/
def readTermIn (isPlace : Bool) : Nat → List Char → Except (Option Flaw) Term
  | 0, _ => .error none
  | fuel + 1, cs =>
    let (tokens, ending) := scan cs
    let check (expression : List Char) : Except (Option Flaw) Unit :=
      (readTermIn true fuel ('(' :: expression ++ [')', '\n'])).map fun _ => ()
    Source.term ⟨tokens.toArray, ending, isPlace, check⟩

/-- The term of a literal, or why it has none. -/
def readTerm (cs : List Char) : Except (Option Flaw) Term :=
  if cs.contains '\x00' then .error (some .nullCharacter)
  else readTermIn false (cs.length + 1) cs

end BundleBuild.Literal
