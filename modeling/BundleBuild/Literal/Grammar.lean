/-
The rules of literals. A rule is a list of alternatives, tried in turn; an alternative is a row of
items and says what they build. Alternatives that describe a mistake end in a flaw: but for mistakes
in dictionaries they are tried only when a literal is known to be wrong, to find the words for it.
-/
import BundleBuild.Literal.Term

namespace BundleBuild.Literal

inductive Rule where
  | whole
  /-- What fills a place in a text. -/
  | place
  | expressions
  | expression
  | yielding
  | starExpressions
  | starExpression
  | starNamedExpressions
  | starNamedExpression
  | assignment
  | namedExpression
  | disjunction
  | conjunction
  | inversion
  | comparison
  | comparisonPart
  | bitwiseOr
  | bitwiseXor
  | bitwiseAnd
  | shift
  | sum
  | product
  | factor
  | power
  | awaited
  | primary
  | atom
  | group
  | function
  | parameters
  | parameterList
  | slashPlain
  | slashDefault
  | starParameters
  | unpackedParameters
  | plainParameter
  | defaultParameter
  | anyParameter
  | parameter
  | default
  | texts
  | tuple
  | set
  | dictionary
  | entries
  | entry
  | pair
  | clauses
  | clause
  | setOf
  | generator
  | dictionaryOf
  | arguments
  | argumentList
  | namedArguments
  | starredArgument
  | namedOrStarred
  | namedOrUnpacked
  | targets
  | targetTuple
  | target
  | plainTarget
  | targetAtom
  | targetPrimary
  | targetAhead
  | plainExpression
  | wrongArguments
  | wrongNamedArgument
  | wrongOldCommand
  | wrongExpression
  | wrongAssignment
  | wrongComprehension
  | wrongDictionaryOf
  | wrongGroup
  | wrongParameters
  | wrongDefaults
  | wrongDefault
  | wrongStarParameters
  | wrongUnpackedParameters
  | wrongEntries
  | wrongPair
  | wrongTarget
  deriving DecidableEq, Repr

/-- What an alternative makes of its items. -/
inductive Verdict where
  | accept (t : Term)
  /-- The rule fails, and no other alternative is tried. -/
  | reject
  | refuse (flaw : Flaw)
  /-- A flaw when the last token taken is inside brackets; otherwise the rule fails. -/
  | refuseInside (flaw : Flaw)
  /-- The texts are to be joined. -/
  | join (qs : List Quoted)

mutual

/-- What an alternative asks for. -/
inductive Item where
  | sign (spelling : String)
  | name
  /-- A name that is a reserved word elsewhere. -/
  | halfReserved
  | number
  | text
  | newline
  | finish
  | rule (r : Rule)
  | choice (alternatives : List Alternative)
  | optional (i : Item)
  | many (i : Item)
  | some (i : Item)
  /-- One or more with commas between. -/
  | listed (i : Item)
  /-- Such an item has to follow, but is not taken. -/
  | ahead (i : Item)
  | notAhead (i : Item)
  /-- From here on no other alternative is tried. -/
  | commit

inductive Alternative where
  | mk (items : List Item) (build : List Term → Verdict) (isMistake : Bool)

end

/-- The term of the item at a place. -/
def pick (k : Nat) (items : List Item) : Alternative :=
  .mk items (fun ts => .accept (ts.getD k .absent)) false

/-- The term of the first item. -/
def pass (items : List Item) : Alternative :=
  pick 0 items

def give (t : Term) (items : List Item) : Alternative :=
  .mk items (fun _ => .accept t) false

def build (items : List Item) (f : List Term → Term) : Alternative :=
  .mk items (fun ts => .accept (f ts)) false

def fault (items : List Item) (flaw : Flaw) : Alternative :=
  .mk items (fun _ => .refuse flaw) false

def faultOf (items : List Item) (flaw : List Term → Verdict) : Alternative :=
  .mk items flaw false

/-- Tried only when mistakes are looked for. -/
def mistake (items : List Item) : Alternative :=
  .mk items (fun ts => .accept (ts.headD .absent)) true

/-- A rule for an operator between two terms that groups to the left. -/
def leftward (self operand : Rule) (signs : List String) (f : String → Term → Term → Term) :
    List Alternative :=
  signs.map (fun s => build [.rule self, .sign s, .rule operand] fun
    | [a, _, b] => f s a b
    | _ => .absent) ++ [pass [.rule operand]]

/-- A row of two or more terms with commas, or one with a comma behind it, or one alone. -/
def rowOf (part : Rule) : List Alternative :=
  [ build [.rule part, .some (.choice [pick 1 [.sign ",", .rule part]]), .optional (.sign ",")] fun
      | a :: b :: _ => .tuple (a :: b.parts)
      | _ => .absent,
    build [.rule part, .sign ","] fun ts => .tuple (ts.take 1),
    pass [.rule part]]

/-- The kind of a comparison: whether it asks for membership. -/
def compared (signs : List String) (isMembership : Bool) : Alternative :=
  pass [.choice [give (.mark (if isMembership then "in" else "")) (signs.map Item.sign ++
    [.rule .bitwiseOr])]]

/-- Parameters that end with a comma, or with a colon that is not taken. -/
def endedBy (items : List Item) : List Alternative :=
  [pass (items ++ [.sign ","]), pass (items ++ [.ahead (.sign ":")])]

/-- A positional argument. -/
def positional : Item :=
  .choice [
    pass [.rule .starredArgument],
    pass [.choice [pass [.rule .assignment], pass [.rule .expression, .notAhead (.sign ":=")]],
      .notAhead (.sign "=")]]

/-- Arguments in the order given, and those by name. -/
def sortArguments (given : List Term) (others : List Term) : Term :=
  let isStarred : Term → Bool
    | .starred _ => true
    | _ => false
  .arguments (given ++ others.filter isStarred) (others.filter (!isStarred ·))

def quotedOf? : Term → Option Quoted
  | .quoted q => some q
  | _ => none

/-- How a parameter list that has a slash starts. -/
def slashed : Item :=
  .choice [pass [.rule .slashPlain], pass [.rule .slashDefault]]

def Rule.alternatives : Rule → List Alternative
  | .whole => [pass [.rule .expressions, .many .newline, .finish]]
  | .place => [pass [.rule .starExpressions]]
  | .expressions => rowOf .expression
  | .expression => [
      mistake [.rule .wrongExpression],
      mistake [.rule .wrongOldCommand],
      give .conditional
        [.rule .disjunction, .sign "if", .rule .disjunction, .sign "else", .rule .expression],
      pass [.rule .disjunction],
      pass [.rule .function]]
  | .yielding => [
      give .yielded [.sign "yield", .sign "from", .rule .expression],
      give .yielded [.sign "yield", .optional (.rule .starExpressions)]]
  | .starExpressions => rowOf .starExpression
  | .starExpression => [
      build [.sign "*", .rule .bitwiseOr] fun ts => .starred (ts.getD 1 .absent),
      pass [.rule .expression]]
  | .starNamedExpressions => [
      pass [.listed (.rule .starNamedExpression), .optional (.sign ",")]]
  | .starNamedExpression => [
      build [.sign "*", .rule .bitwiseOr] fun ts => .starred (ts.getD 1 .absent),
      pass [.rule .namedExpression]]
  | .assignment => [
      give .assignment [.name, .sign ":=", .commit, .rule .expression]]
  | .namedExpression => [
      pass [.rule .assignment],
      mistake [.rule .wrongAssignment],
      pass [.rule .expression, .notAhead (.sign ":=")]]
  | .disjunction => [
      give .operation [.rule .conjunction,
        .some (.choice [pick 1 [.sign "or", .rule .conjunction]])],
      pass [.rule .conjunction]]
  | .conjunction => [
      give .operation [.rule .inversion, .some (.choice [pick 1 [.sign "and", .rule .inversion]])],
      pass [.rule .inversion]]
  | .inversion => [
      give .operation [.sign "not", .rule .inversion],
      pass [.rule .comparison]]
  | .comparison => [
      build [.rule .bitwiseOr, .some (.rule .comparisonPart)] fun
        | [a, b] => .comparison a (match b.parts with
          | .mark s :: _ => s = "in"
          | _ => false)
        | _ => .absent,
      pass [.rule .bitwiseOr]]
  | .comparisonPart => [
      compared ["=="] false, compared ["!="] false, compared ["<="] false, compared ["<"] false,
      compared [">="] false, compared [">"] false, compared ["not", "in"] false,
      compared ["in"] true, compared ["is", "not"] false, compared ["is"] false]
  | .bitwiseOr => leftward .bitwiseOr .bitwiseXor ["|"] fun _ _ _ => .operation
  | .bitwiseXor => leftward .bitwiseXor .bitwiseAnd ["^"] fun _ _ _ => .operation
  | .bitwiseAnd => leftward .bitwiseAnd .shift ["&"] fun _ _ _ => .operation
  | .shift => leftward .shift .sum ["<<", ">>"] fun _ _ _ => .operation
  | .sum => leftward .sum .product ["+", "-"] fun s a b => .sum (s = "-") a b
  | .product => leftward .product .factor ["*", "/", "//", "%", "@"] fun _ _ _ => .operation
  | .factor => [
      build [.sign "+", .rule .factor] fun ts => .signed false (ts.getD 1 .absent),
      build [.sign "-", .rule .factor] fun ts => .signed true (ts.getD 1 .absent),
      give .operation [.sign "~", .rule .factor],
      pass [.rule .power]]
  | .power => [
      give .operation [.rule .awaited, .sign "**", .rule .factor],
      pass [.rule .awaited]]
  | .awaited => [
      give .awaited [.sign "await", .rule .primary],
      pass [.rule .primary]]
  | .primary => [
      give .member [.rule .primary, .sign ".", .name],
      build [.rule .primary, .rule .generator] fun ts =>
        .call (ts.headD .absent) (.arguments [.generator] []),
      build [.rule .primary, .sign "(", .optional (.rule .arguments), .sign ")"] fun ts =>
        .call (ts.headD .absent) (match ts.getD 2 .absent with
          | .absent => .arguments [] []
          | given => given),
      pass [.rule .atom]]
  | .atom => [
      pass [.name],
      give (.constant "True") [.sign "True"],
      give (.constant "False") [.sign "False"],
      give (.constant "None") [.sign "None"],
      pass [.ahead .text, .rule .texts],
      pass [.number],
      pass [.ahead (.sign "("), .choice [pass [.rule .tuple], pass [.rule .group],
        pass [.rule .generator]]],
      pass [.ahead (.sign "\x7b"), .choice [pass [.rule .dictionary], pass [.rule .set],
        pass [.rule .dictionaryOf], pass [.rule .setOf]]],
      give (.constant "...") [.sign "..."]]
  | .group => [
      pick 1 [.sign "(", .choice [pass [.rule .yielding], pass [.rule .namedExpression]],
        .sign ")"],
      mistake [.rule .wrongGroup]]
  | .function => [
      give .function [.sign "lambda", .optional (.rule .parameters), .sign ":",
        .rule .expression]]
  | .parameters => [
      mistake [.rule .wrongParameters],
      pass [.rule .parameterList]]
  | .parameterList => [
      pass [.rule .slashPlain, .many (.rule .plainParameter), .many (.rule .defaultParameter),
        .optional (.rule .starParameters)],
      pass [.rule .slashDefault, .many (.rule .defaultParameter),
        .optional (.rule .starParameters)],
      pass [.some (.rule .plainParameter), .many (.rule .defaultParameter),
        .optional (.rule .starParameters)],
      pass [.some (.rule .defaultParameter), .optional (.rule .starParameters)],
      pass [.rule .starParameters]]
  | .slashPlain => endedBy [.some (.rule .plainParameter), .sign "/"]
  | .slashDefault =>
    endedBy [.many (.rule .plainParameter), .some (.rule .defaultParameter), .sign "/"]
  | .starParameters => [
      mistake [.rule .wrongStarParameters],
      pass [.sign "*", .rule .plainParameter, .many (.rule .anyParameter),
        .optional (.rule .unpackedParameters)],
      pass [.sign "*", .sign ",", .some (.rule .anyParameter),
        .optional (.rule .unpackedParameters)],
      pass [.rule .unpackedParameters]]
  | .unpackedParameters => [
      mistake [.rule .wrongUnpackedParameters],
      pass [.sign "**", .rule .plainParameter]]
  | .plainParameter => endedBy [.rule .parameter]
  | .defaultParameter => endedBy [.rule .parameter, .rule .default]
  | .anyParameter => endedBy [.rule .parameter, .optional (.rule .default)]
  | .parameter => [pass [.name]]
  | .default => [
      pass [.sign "=", .rule .expression],
      mistake [.rule .wrongDefault]]
  | .texts => [
      .mk [.some .text] (fun ts => .join ((ts.headD .absent).parts.filterMap quotedOf?)) false]
  | .tuple => [
      build [.sign "(", .optional (.choice [
          build [.rule .starNamedExpression, .sign ",", .optional (.rule .starNamedExpressions)]
            fun ts => .several (ts.headD .absent :: (ts.getD 2 .absent).parts)]),
        .sign ")"] fun ts => .tuple (ts.getD 1 .absent).parts]
  | .set => [
      build [.sign "\x7b", .rule .starNamedExpressions, .sign "\x7d"] fun ts =>
        .set (ts.getD 1 .absent).parts]
  | .dictionary => [
      build [.sign "\x7b", .optional (.rule .entries), .sign "\x7d"] fun ts =>
        .dictionary (ts.getD 1 .absent).parts,
      pass [.sign "\x7b", .rule .wrongEntries, .sign "\x7d"]]
  | .entries => [pass [.listed (.rule .entry), .optional (.sign ",")]]
  | .entry => [
      build [.sign "**", .rule .bitwiseOr] fun ts => .entry .absent (ts.getD 1 .absent),
      pass [.rule .pair]]
  | .pair => [
      build [.rule .expression, .sign ":", .rule .expression] fun ts =>
        .entry (ts.headD .absent) (ts.getD 2 .absent)]
  | .clauses => [pass [.some (.rule .clause)]]
  | .clause => [
      pass [.sign "async", .sign "for", .rule .targets, .sign "in", .commit, .rule .disjunction,
        .many (.choice [pick 1 [.sign "if", .rule .disjunction]])],
      pass [.sign "for", .rule .targets, .sign "in", .commit, .rule .disjunction,
        .many (.choice [pick 1 [.sign "if", .rule .disjunction]])],
      mistake [.rule .wrongTarget]]
  | .setOf => [
      give .setOf [.sign "\x7b", .rule .namedExpression, .rule .clauses, .sign "\x7d"],
      mistake [.rule .wrongComprehension]]
  | .generator => [
      give .generator [.sign "(", .choice [pass [.rule .assignment],
        pass [.rule .expression, .notAhead (.sign ":=")]], .rule .clauses, .sign ")"],
      mistake [.rule .wrongComprehension]]
  | .dictionaryOf => [
      give .dictionaryOf [.sign "\x7b", .rule .pair, .rule .clauses, .sign "\x7d"],
      mistake [.rule .wrongDictionaryOf]]
  | .arguments => [
      pass [.rule .argumentList, .optional (.sign ","), .ahead (.sign ")")],
      mistake [.rule .wrongArguments]]
  | .argumentList => [
      build [.listed positional, .optional (.choice [pick 1 [.sign ",", .rule .namedArguments]])]
        fun ts => sortArguments (ts.headD .absent).parts (ts.getD 1 .absent).parts,
      build [.rule .namedArguments] fun ts => sortArguments [] (ts.headD .absent).parts]
  | .namedArguments => [
      build [.listed (.rule .namedOrStarred), .sign ",", .listed (.rule .namedOrUnpacked)] fun ts =>
        .several ((ts.headD .absent).parts ++ (ts.getD 2 .absent).parts),
      pass [.listed (.rule .namedOrStarred)],
      pass [.listed (.rule .namedOrUnpacked)]]
  | .starredArgument => [
      build [.sign "*", .rule .expression] fun ts => .starred (ts.getD 1 .absent),
      fault [.sign "*"] .starAlone]
  | .namedOrStarred => [
      mistake [.rule .wrongNamedArgument],
      give (.named false) [.name, .sign "=", .rule .expression],
      pass [.rule .starredArgument]]
  | .namedOrUnpacked => [
      mistake [.rule .wrongNamedArgument],
      give (.named false) [.name, .sign "=", .rule .expression],
      give (.named true) [.sign "**", .rule .expression]]
  | .targets => [
      pass [.rule .target, .notAhead (.sign ",")],
      pass [.rule .target, .many (.choice [pick 1 [.sign ",", .rule .target]]),
        .optional (.sign ",")]]
  | .targetTuple => [
      pass [.rule .target, .some (.choice [pick 1 [.sign ",", .rule .target]]),
        .optional (.sign ",")],
      pass [.rule .target, .sign ","]]
  | .target => [
      pass [.sign "*", .choice [pass [.notAhead (.sign "*"), .rule .target]]],
      pass [.rule .plainTarget]]
  | .plainTarget => [
      pass [.rule .targetPrimary, .sign ".", .name, .notAhead (.rule .targetAhead)],
      pass [.rule .targetAtom]]
  | .targetAtom => [
      pass [.name],
      pass [.sign "(", .rule .plainTarget, .sign ")"],
      pass [.sign "(", .optional (.rule .targetTuple), .sign ")"]]
  | .targetPrimary => [
      pass [.rule .targetPrimary, .sign ".", .name, .ahead (.rule .targetAhead)],
      pass [.rule .targetPrimary, .rule .generator, .ahead (.rule .targetAhead)],
      pass [.rule .targetPrimary, .sign "(", .optional (.rule .arguments), .sign ")",
        .ahead (.rule .targetAhead)],
      pass [.rule .atom, .ahead (.rule .targetAhead)]]
  | .targetAhead => [pass [.sign "("], pass [.sign "["], pass [.sign "."]]
  | .plainExpression => [
      give .conditional
        [.rule .disjunction, .sign "if", .rule .disjunction, .sign "else", .rule .expression],
      pass [.rule .disjunction],
      pass [.rule .function]]
  | .wrongArguments => [
      fault [.choice [pass [.choice [pass [.listed positional, .sign ",", .rule .namedArguments]]],
          pass [.rule .namedArguments]], .sign ",",
        .listed (.choice [pass [.rule .starredArgument, .notAhead (.sign "=")]])]
        .starredBehindUnpacked,
      fault [.rule .expression, .rule .clauses, .sign ",", .optional (.choice [
        pass [.rule .argumentList], pass [.rule .expression, .rule .clauses]])] .bareGenerator,
      fault [.name, .sign "=", .rule .expression, .rule .clauses] .meantEquality,
      faultOf [.rule .argumentList, .rule .clauses] fun
        | .arguments given _ :: _ => if given.length ≤ 1 then .reject else .refuse .bareGenerator
        | _ => .reject,
      fault [.rule .argumentList, .sign ",", .rule .expression, .rule .clauses] .bareGenerator,
      faultOf [.rule .argumentList, .sign ",", .rule .argumentList] fun
        | .arguments _ named :: _ =>
          .refuse (if named.any (fun | .named true => true | _ => false)
            then .positionalBehindUnpacked else .positionalBehindKeyword)
        | _ => .reject]
  | .wrongNamedArgument => [
      faultOf [.choice [pass [.sign "True"], pass [.sign "False"], pass [.sign "None"]],
          .sign "="] fun
        | .mark word :: _ => .refuse (.assigned word)
        | _ => .reject,
      fault [.name, .sign "=", .rule .expression, .rule .clauses] .meantEquality,
      fault [.notAhead (.choice [pass [.name, .sign "="]]), .rule .expression, .sign "="]
        .assignedInCall]
  | .wrongOldCommand => [
      faultOf [.name, .notAhead (.sign "("), .rule .starExpressions] fun
        | .name word :: _ =>
          if (Term.name word).isOldCommand then .refuse (.missingCall word) else .reject
        | _ => .reject]
  | .wrongExpression => [
      faultOf [.notAhead (.choice [pass [.name, .text], pass [.halfReserved]]),
          .rule .disjunction, .rule .plainExpression] fun ts =>
        if (ts.headD .absent).isOldCommand then .reject else .refuseInside .missingComma,
      fault [.rule .disjunction, .sign "if", .rule .disjunction,
        .notAhead (.choice [pass [.sign "else"], pass [.sign ":"]])] .missingElse]
  | .wrongAssignment => [
      faultOf [.rule .expression, .sign ":=", .rule .expression] fun ts =>
        .refuse (.assignedWith (ts.headD .absent).kind),
      fault [.name, .sign "=", .rule .bitwiseOr,
        .notAhead (.choice [pass [.sign "="], pass [.sign ":="]])] .meantEquality,
      faultOf [.notAhead (.choice [pass [.rule .tuple], pass [.rule .generator],
          pass [.sign "True"], pass [.sign "None"], pass [.sign "False"]]),
          .rule .bitwiseOr, .sign "=", .rule .bitwiseOr,
          .notAhead (.choice [pass [.sign "="], pass [.sign ":="]])] fun ts =>
        .refuse (.assignedHere (ts.headD .absent).kind)]
  | .wrongComprehension => [
      fault [.choice [pass [.sign "("], pass [.sign "\x7b"]], .rule .starredArgument,
        .rule .clauses] .starredComprehension,
      fault [.choice [pass [.sign "["], pass [.sign "\x7b"]], .rule .starNamedExpression,
        .sign ",", .rule .starNamedExpressions, .rule .clauses] .bareTarget,
      fault [.choice [pass [.sign "["], pass [.sign "\x7b"]], .rule .starNamedExpression,
        .sign ",", .rule .clauses] .bareTarget]
  | .wrongDictionaryOf => [
      fault [.sign "\x7b", .sign "**", .rule .bitwiseOr, .rule .clauses, .sign "\x7d"]
        .unpackedComprehension]
  | .wrongGroup => [
      fault [.sign "(", .rule .starredArgument, .sign ")"] .starredAlone,
      fault [.sign "(", .sign "**", .rule .expression, .sign ")"] .unpackedAlone]
  | .wrongParameters => [
      fault [.many (.rule .plainParameter), .rule .wrongDefaults, .rule .plainParameter]
        (.parameter .defaultFirst),
      fault [.many (.rule .plainParameter), .sign "(", .listed (.rule .parameter),
        .optional (.sign ","), .sign ")"] (.parameter .bracketed),
      fault [.sign "/", .sign ","] (.parameter .slashFirst),
      fault [slashed, .many (.rule .anyParameter), .sign "/"] (.parameter .slashTwice),
      fault [.optional slashed, .many (.rule .anyParameter), .sign "*",
        .choice [pass [.sign ","], pass [.rule .plainParameter]], .many (.rule .anyParameter),
        .sign "/"] (.parameter .slashBehindStar),
      fault [.some (.rule .anyParameter), .sign "/", .sign "*"] (.parameter .slashBeforeStar)]
  | .wrongDefaults => [
      pass [.rule .slashDefault],
      pass [.some (.rule .defaultParameter)]]
  | .wrongDefault => [
      fault [.sign "=", .ahead (.choice [pass [.sign ")"], pass [.sign ","]])]
        (.parameter .noDefault)]
  | .wrongStarParameters => [
      fault [.sign "*", .choice [pass [.sign ":"],
        pass [.sign ",", .choice [pass [.sign ":"], pass [.sign "**"]]]]] (.parameter .bareStar),
      fault [.sign "*", .rule .parameter, .sign "="] (.parameter .starDefault),
      fault [.sign "*", .choice [pass [.rule .plainParameter], pass [.sign ","]],
        .many (.rule .anyParameter), .sign "*",
        .choice [pass [.rule .plainParameter], pass [.sign ","]]] (.parameter .starTwice)]
  | .wrongUnpackedParameters => [
      fault [.sign "**", .rule .parameter, .sign "="] (.parameter .unpackedDefault),
      fault [.sign "**", .rule .parameter, .sign ",", .rule .parameter]
        (.parameter .behindUnpacked),
      fault [.sign "**", .rule .parameter, .sign ",", .choice [pass [.sign "*"],
        pass [.sign "**"], pass [.sign "/"]]] (.parameter .behindUnpacked)]
  | .wrongEntries => [
      pass [.listed (.rule .entry), .sign ",", .rule .wrongPair],
      fault [.rule .expression, .sign ":", .sign "*", .rule .bitwiseOr] .starredValue,
      fault [.rule .expression, .sign ":",
        .ahead (.choice [pass [.sign "\x7d"], pass [.sign ","]])] .keyWithoutValue]
  | .wrongPair => [
      fault [.rule .expression, .notAhead (.sign ":")] .keyWithoutColon,
      fault [.rule .expression, .sign ":", .sign "*", .rule .bitwiseOr] .starredValue,
      fault [.rule .expression, .sign ":",
        .ahead (.choice [pass [.sign "\x7d"], pass [.sign ","]])] .keyWithoutValue]
  | .wrongTarget => [
      faultOf [.optional (.sign "async"), .sign "for", .rule .starExpressions] fun ts =>
        match (ts.getD 2 .absent).unbindable? with
        | some t => .refuse (.assigned t.kind)
        | none => .reject]

/-- How the outcome of a rule at a place is kept. -/
inductive Keeping where
  /-- It is found anew each time. -/
  | fresh
  /-- It is found once. -/
  | kept
  /-- It is found again and again on top of itself, as long as it gets longer. -/
  | growing
  deriving DecidableEq, Repr

def Rule.keeping : Rule → Keeping
  | .expression => .kept
  | .starExpression => .kept
  | .disjunction => .kept
  | .conjunction => .kept
  | .inversion => .kept
  | .factor => .kept
  | .awaited => .kept
  | .texts => .kept
  | .arguments => .kept
  | .target => .kept
  | .plainTarget => .kept
  | .wrongAssignment => .kept
  | .bitwiseOr => .growing
  | .bitwiseXor => .growing
  | .bitwiseAnd => .growing
  | .shift => .growing
  | .sum => .growing
  | .product => .growing
  | .primary => .growing
  | .targetPrimary => .growing
  | _ => .fresh

end BundleBuild.Literal
