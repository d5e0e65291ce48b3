/-
Reading scripts. Words and commands are read in one go, because a word can hold commands. A
script is read one line of commands at a time, so that what stands before a mistake is run before
the mistake is found. Every reader takes a bound on its steps; the length of the script is one.
-/
import BundleBuild.Entries
import BundleBuild.Shell.Script

namespace BundleBuild.Shell

inductive Token where
  | word (w : Word)
  | keyword (s : String)
  | sign (s : String)
  | redirect (descriptor : Nat) (sign : String)
  | newline
  /-- Nothing is left. -/
  | finish

/-- A token in a complaint. -/
def Token.name : Token → String
  | .word _ => "word"
  | .keyword s => "\"" ++ s ++ "\""
  | .sign s => "\"" ++ s ++ "\""
  | .redirect _ _ => "redirection"
  | .newline => "newline"
  | .finish => "end of file"

def Token.isSign (s : String) : Token → Bool
  | .sign s' => s' == s
  | _ => false

def Token.isKeyword (s : String) : Token → Bool
  | .keyword s' => s' == s
  | _ => false

def keywords : List String :=
  ["!", "case", "do", "done", "elif", "else", "esac", "fi", "for", "if", "in", "then", "until",
    "while", "\x7b", "\x7d"]

/-- Whether a list of commands ends before this token. -/
def Token.endsList : Token → Bool
  | .finish => true
  | .sign s => s == ")" || s == ";;"
  | .keyword s =>
    ["do", "done", "elif", "else", "esac", "fi", "then", "\x7d"].contains s
  | _ => false

/-- A here-document whose text has not come yet. -/
structure Pending where
  number : Nat
  closing : List Char
  stripTabs : Bool
  literal : Bool

/-- An alias whose text is being read. -/
structure AliasUse where
  name : String
  /-- How many characters are left when its text is over. -/
  left : Nat
  /-- Its text ends in a blank, so that the next word may be an alias, too. -/
  goesOn : Bool

/-- The part of a script that is left to read. -/
structure Source where
  rest : List Char
  aliases : Entries String := []
  /-- The aliases being read, the innermost first. -/
  uses : List AliasUse := []
  /-- The word at hand follows an alias that goes on. -/
  follows : Bool := false
  line : Nat := 1
  /-- A token that was read ahead. -/
  held : Option Token := none
  documents : Array Word := #[]
  pending : List Pending := []

/-- A mistake in a script and the line it was found on. -/
structure SyntaxFault where
  line : Nat
  text : String
  deriving DecidableEq, Repr

abbrev Read := EStateM SyntaxFault Source

namespace Read

def complain {α : Type} (text : String) : Read α := do
  throw ⟨(← get).line, text⟩

/-- The complaint about a token where another one, or none of a kind, was due. -/
def unexpected {α : Type} (t : Token) (due : Option String) : Read α :=
  complain (t.name ++ " unexpected" ++ match due with
    | some s => " (expecting " ++ s ++ ")"
    | none => "")

/-- The next character, taken. -/
def take : Read (Option Char) := do
  let s ← get
  match s.rest with
  | [] => return none
  | c :: rest =>
    set { s with rest := rest, line := if c = '\n' then s.line + 1 else s.line }
    return some c

/-- The characters after line ends that a backslash takes away, and the number of those. -/
def joined : List Char → Nat × List Char
  | '\\' :: '\n' :: rest => let (n, rest') := joined rest; (n + 1, rest')
  | cs => (0, cs)

/-- The next character, left where it is. -/
def peek : Read (Option Char) := do
  let s ← get
  let (n, rest) := joined s.rest
  set { s with rest := rest, line := s.line + n }
  return rest.head?

/-- Takes the next character if it is this one. -/
def takeIf (c : Char) : Read Bool := do
  if (← peek) == some c then
    let _ ← take
    return true
  else return false

/-- The characters up to one that fails the test. -/
def takeWhile (p : Char → Bool) : Nat → List Char → Read (List Char)
  | 0, acc => return acc.reverse
  | n + 1, acc => do
    match ← peek with
    | some c => if p c then let _ ← take; takeWhile p n (c :: acc) else return acc.reverse
    | none => return acc.reverse

/-- The sign of a redirection that starts with `>`. -/
def outputSign : Read String := do
  let _ ← take
  if ← takeIf '>' then return ">>"
  else if ← takeIf '|' then return ">|"
  else if ← takeIf '&' then return ">&"
  else return ">"

/-- The sign of a redirection that starts with `<`. -/
def inputSign : Read String := do
  let _ ← take
  if ← takeIf '<' then
    if ← takeIf '-' then return "<<-" else return "<<"
  else if ← takeIf '&' then return "<&"
  else if ← takeIf '>' then return "<>"
  else return "<"

/-- Leaves the aliases whose text is over. -/
def leaveAliases : Read Unit :=
  modify fun s =>
    let isOver (u : AliasUse) : Bool := s.rest.length ≤ u.left
    { s with
      uses := s.uses.filter (!isOver ·)
      follows := s.uses.any fun u => isOver u && u.goesOn }

/-- The text of an alias that is not being read already. -/
def alias? (name : String) : Read (Option String) := do
  let s ← get
  return if s.uses.any (·.name == name) then none else s.aliases.get? name

/-- Puts the text of an alias in front of what is left to read. -/
def enterAlias (name text : String) : Read Unit :=
  modify fun s =>
    let goesOn := (text.toList.getLast?.map fun c => c = ' ' || c = '\t').getD false
    if text.isEmpty then s
    else { s with
      rest := text.toList ++ s.rest
      uses := ⟨name, s.rest.length, goesOn⟩ :: s.uses }

def hold (t : Token) : Read Unit :=
  modify fun s => { s with held := some t }

/-- The characters up to a closing quotation mark. -/
def singleQuoted : Nat → List Char → Read (List Char)
  | 0, acc => return acc.reverse
  | n + 1, acc => do
    match ← take with
    | none => complain "Unterminated quoted string"
    | some '\'' => return acc.reverse
    | some c => singleQuoted n (c :: acc)

/-- The characters up to a closing backquote, without the backslashes that protect one. -/
def backquoted (quoted : Bool) : Nat → List Char → Read (List Char)
  | 0, acc => return acc.reverse
  | n + 1, acc => do
    match ← take with
    | none => complain "EOF in backquote substitution"
    | some '\x60' => return acc.reverse
    | some '\\' => do
      match ← take with
      | none => complain "EOF in backquote substitution"
      | some '\n' => backquoted quoted n acc
      | some c =>
        if c = '\\' || c = '\x60' || c = '$' || (quoted && c = '"') then
          backquoted quoted n (c :: acc)
        else backquoted quoted n (c :: '\\' :: acc)
    | some c => backquoted quoted n (c :: acc)

/-- The characters up to the end of a line. -/
def comment : Nat → Read Unit
  | 0 => pure ()
  | n + 1 => do
    match (← get).rest.head? with
    | none => pure ()
    | some '\n' => pure ()
    | some _ => let _ ← take; comment n

/-- What is left after the closing line of a here-document, if that comes next. -/
def afterClosing? (closing cs : List Char) : Option (List Char) :=
  match closing, cs with
  | [], [] => some []
  | [], '\n' :: rest => some rest
  | c :: closing', c' :: cs' => if c = c' then afterClosing? closing' cs' else none
  | _, _ => none

end Read

open Read

/-- Where a token stands. -/
inductive Position where
  | argument
  /-- Where the name of a command may stand, but no keyword. -/
  | front
  | command
  /-- Where a keyword may stand, but no command. -/
  | pattern
  deriving DecidableEq, Repr

def Position.takesKeywords : Position → Bool
  | .command => true
  | .pattern => true
  | _ => false

def Position.takesAliases : Position → Bool
  | .command => true
  | .front => true
  | _ => false

/-- What a part of a word stands in. -/
inductive Context where
  | bare
  /-- The closing word of a here-document, in which nothing is replaced. -/
  | closing
  | quotes
  /-- The word of a parameter. -/
  | braces (quoted : Bool)
  | sum (depth : Nat)
  deriving DecidableEq, Repr

/-- Whether a character ends a bare word. -/
def endsWord (c : Char) : Bool :=
  [' ', '\t', '\n', ';', '&', '|', '<', '>', '(', ')'].contains c

/-- A parameter's name as it is read after an opening brace: the name, whether its length is
wanted, and whether it is one at all. -/
structure Opened where
  name : String
  wantsLength : Bool := false
  isGood : Bool := true

/-- The operator after a parameter's name, taken; `none` where there is none that is known. -/
inductive Operator where
  | close
  | fallback (kind : Fallback) (orEmpty : Bool)
  | trim (atEnd longest : Bool)
  | bad

namespace Read

def fallbackOf : Char → Option Fallback
  | '-' => some .missing
  | '+' => some .alternative
  | '?' => some .demand
  | '=' => some .assign
  | _ => none

def operator : Read Operator := do
  match ← peek with
  | some ':' =>
    let _ ← take
    match (← peek).bind fallbackOf with
    | some kind => let _ ← take; return .fallback kind true
    | none => let _ ← take; return .bad
  | some '\x7d' => let _ ← take; return .close
  | some '%' => let _ ← take; return .trim true (← takeIf '%')
  | some '#' => let _ ← take; return .trim false (← takeIf '#')
  | some c => match fallbackOf c with
    | some kind => let _ ← take; return .fallback kind false
    | none => let _ ← take; return .bad
  | none => return .bad

/-- A name of letters or digits. -/
def plainName (n : Nat) : Read (Option String) := do
  match ← peek with
  | some c =>
    if isNameStart c then return some (String.ofList (← takeWhile isNameChar n []))
    else if c.isDigit then return some (String.ofList (← takeWhile Char.isDigit n []))
    else return none
  | none => return none

/-- What stands after an opening brace. The length of the sign `#` itself is only asked for by
another sign after it that is the last. -/
def opened (n : Nat) : Read Opened := do
  match ← plainName n with
  | some name => return { name := name }
  | none =>
    match ← peek with
    | some '#' =>
      let _ ← take
      match ← plainName n with
      | some name =>
        return { name := name, wantsLength := true, isGood := (← peek) == some '\x7d' }
      | none =>
        let s ← get
        match joined s.rest with
        | (_, c :: rest) =>
          if c ≠ '\x7d' && (joined rest).2.head? == some '\x7d' then
            if isSpecialParam c then
              let _ ← take
              return { name := c.toString, wantsLength := true }
            else return { name := "", isGood := false }
          else return { name := "#" }
        | _ => return { name := "#" }
    | some c =>
      if isSpecialParam c then
        let _ ← take
        return { name := c.toString }
      else return { name := "", isGood := false }
    | none => return { name := "", isGood := false }

end Read

/-- How a list of commands ends: a line of the script, the commands between two keywords, of which
there is one at least, or any number of commands. -/
inductive ListKind where
  | line
  | body
  | any
  deriving DecidableEq, Repr

/-- Commands that come last first, as one. -/
def Command.ofList : List Command → Command
  | [c] => c
  | cs => .seq cs.reverse

/-- The redirection of a sign; a single sign may lead to a here-document. -/
def redirectKind (sign : String) : RedirectKind :=
  match sign with
  | "<" => .input
  | ">>" => .append
  | ">|" => .overwrite
  | "<>" => .both
  | "<&" => .copy
  | ">&" => .copy
  | _ => .output

/-- Builtin commands whose names no function may have. -/
def specialBuiltins : List String :=
  [".", ":", "break", "continue", "eval", "exec", "exit", "export", "local", "readonly", "return",
    "set", "shift", "times", "trap", "unset"]

mutual

/-- The parts of a word up to where its context ends; those read so far come last first. -/
def readParts : Nat → Context → List Part → Read Word
  | 0, _, acc => return Word.ofParts acc
  | n + 1, context, acc => do
    let next := (← get).rest.head?
    match context, next with
    | .bare, none => return Word.ofParts acc
    | .closing, none => return Word.ofParts acc
    | .quotes, none => complain "Unterminated quoted string"
    | .braces true, none => complain "Unterminated quoted string"
    | .braces false, none => complain "Missing '\x7d'"
    | .sum _, none => complain "Missing '))'"
    | _, some c =>
      let bare := context == .bare || context == .closing || context == .braces false
      if (context == .bare || context == .closing) && endsWord c then return Word.ofParts acc
      else
        let _ ← take
        if c = '\\' then
          match ← take with
          | none => readParts n context (.text ['\\'] true :: acc)
          | some '\n' => readParts n context acc
          | some e =>
            let plain := bare || ['\\', '\x60', '$', '"'].contains e ||
              (e = '\x7d' && context == .braces true)
            readParts n context (.text (if plain then [e] else ['\\', e]) true :: acc)
        else if c = '\'' && bare then
          let cs ← singleQuoted (← get).rest.length.succ []
          readParts n context (.mark :: .text cs true :: .mark :: acc)
        else if c = '"' && bare then
          let inner ← readParts n .quotes []
          readParts n context (.mark :: inner.reverse ++ .mark :: acc)
        else if c = '"' && context == .quotes then return Word.ofParts acc
        else if c = '"' && context == .braces true then readParts n context (.mark :: acc)
        else if c = '$' && context ≠ .closing then
          let part ← readDollar n (!bare)
          readParts n context (part :: acc)
        else if c = '\x60' && context ≠ .closing then
          let part ← readBackquoted n (!bare)
          readParts n context (part :: acc)
        else match context with
          | .braces _ =>
            if c = '\x7d' then return Word.ofParts acc
            else readParts n context (.text [c] (!bare) :: acc)
          | .sum depth =>
            if c = '(' then readParts n (.sum (depth + 1)) (.text [c] true :: acc)
            else if c = ')' then
              if 0 < depth then readParts n (.sum (depth - 1)) (.text [c] true :: acc)
              else if ← takeIf ')' then return Word.ofParts acc
              else readParts n context (.text [c] true :: acc)
            else readParts n context (.text [c] true :: acc)
          | _ => readParts n context (.text [c] (!bare) :: acc)

/-- What a dollar sign stands for; the sign has been taken. -/
def readDollar : Nat → Bool → Read Part
  | 0, _ => complain "Missing '))'"
  | n + 1, quoted => do
    match ← peek with
    | some '(' =>
      let _ ← take
      if ← takeIf '(' then return .sum (← readParts n (.sum 0) []) quoted
      else
        let outer ← get
        set { outer with pending := [] }
        let body ← readList n .any []
        let close ← readToken n .argument false
        if !close.isSign ")" then unexpected close (some "\")\"")
        modify fun s => { s with pending := outer.pending ++ s.pending }
        return .output body quoted
    | some '\x7b' =>
      let _ ← take
      let o ← opened n.succ
      if !o.isGood then
        let _ ← readParts n (.braces quoted) []
        return .param o.name .bad quoted
      else if o.wantsLength then
        let _ ← take
        return .param o.name .length quoted
      else match ← operator with
        | .close => return .param o.name .value quoted
        | .fallback kind orEmpty =>
          return .param o.name (.fallback kind orEmpty (← readParts n (.braces quoted) [])) quoted
        | .trim atEnd longest =>
          return .param o.name (.trim atEnd longest (← readParts n (.braces false) [])) quoted
        | .bad =>
          let _ ← readParts n (.braces quoted) []
          return .param o.name .bad quoted
    | some c =>
      if isNameStart c then
        return .param (String.ofList (← takeWhile isNameChar (← get).rest.length [])) .value quoted
      else if isSpecialParam c then
        let _ ← take
        return .param c.toString .value quoted
      else return .text ['$'] quoted
    | none => return .text ['$'] quoted

/-- The commands between two backquotes; the first has been taken. -/
def readBackquoted : Nat → Bool → Read Part
  | 0, _ => complain "EOF in backquote substitution"
  | n + 1, quoted => do
    let cs ← backquoted quoted (← get).rest.length.succ []
    let outer ← get
    set { outer with
      rest := cs
      line := 1
      held := none
      pending := []
      uses := outer.uses.map fun (u : AliasUse) => ⟨u.name, 0, false⟩ }
    let body ← readList n .any []
    modify fun s => { outer with documents := s.documents }
    return .output body quoted

/-- The text of a here-document, up to its closing line. -/
def readDocument : Nat → Pending → Bool → List Part → Read Word
  | 0, _, _, acc => return Word.ofParts acc
  | n + 1, p, atStart, acc => do
    let s ← get
    let tabs := if atStart && p.stripTabs then (s.rest.takeWhile (· = '\t')).length else 0
    let rest := s.rest.drop tabs
    match if atStart then afterClosing? p.closing rest else none with
    | some after =>
      set { s with rest := after, line := s.line + 1 }
      return Word.ofParts acc
    | none =>
      set { s with rest := rest }
      match ← take with
      | none => return Word.ofParts acc
      | some '\n' => readDocument n p true (.text ['\n'] true :: acc)
      | some c =>
        if p.literal then readDocument n p false (.text [c] true :: acc)
        else if c = '\\' then
          match ← take with
          | none => readDocument n p false (.text ['\\'] true :: acc)
          | some '\n' => readDocument n p false acc
          | some e =>
            let plain := ['\\', '\x60', '$'].contains e
            readDocument n p false (.text (if plain then [e] else ['\\', e]) true :: acc)
        else if c = '$' then
          let part ← readDollar n true
          readDocument n p false (part :: acc)
        else if c = '\x60' then
          let part ← readBackquoted n true
          readDocument n p false (part :: acc)
        else readDocument n p false (.text [c] true :: acc)

/-- The texts of the here-documents that are waiting, at the start of a line. -/
def readPending : Nat → Read Unit
  | 0 => pure ()
  | n + 1 => do
    match (← get).pending with
    | [] => pure ()
    | p :: rest =>
      modify fun s => { s with pending := rest }
      let w ← readDocument n p true []
      modify fun s => { s with documents := s.documents.setIfInBounds p.number w }
      readPending n

/-- The next token in its own right; a closing word of a here-document when `closing` says so. -/
def readRaw : Nat → Bool → Read Token
  | 0, _ => return .finish
  | n + 1, closing => do
    let first ← peek
    if first ≠ some ' ' && first ≠ some '\t' then leaveAliases
    match first with
    | none => return .finish
    | some ' ' => let _ ← take; readRaw n closing
    | some '\t' => let _ ← take; readRaw n closing
    | some '#' => comment (← get).rest.length; readRaw n closing
    | some '\n' =>
      let _ ← take
      readPending n
      return .newline
    | some '&' => let _ ← take; return .sign (if ← takeIf '&' then "&&" else "&")
    | some '|' => let _ ← take; return .sign (if ← takeIf '|' then "||" else "|")
    | some ';' => let _ ← take; return .sign (if ← takeIf ';' then ";;" else ";")
    | some '(' => let _ ← take; return .sign "("
    | some ')' => let _ ← take; return .sign ")"
    | some _ =>
      let w ← readParts n (if closing then .closing else .bare) []
      match ← peek with
      | some c =>
        let digits := match w with
          | [] => some none
          | [.text [d] false] => if d.isDigit then some (some (d.toNat - '0'.toNat)) else none
          | _ => none
        match digits with
        | some d =>
          if c = '>' then return .redirect (d.getD 1) (← outputSign)
          else if c = '<' then return .redirect (d.getD 0) (← inputSign)
          else return .word w
        | none => return .word w
      | none => return .word w

/-- The next token, after any newlines where `lines` says that they do not matter. Where it stands
decides whether a word is a keyword or an alias, which is replaced by its text. -/
def readToken : Nat → Position → Bool → Read Token
  | 0, _, _ => return .finish
  | n + 1, position, lines => do
    let s ← get
    let t ← match s.held with
      | some t => do
        set { s with held := none }
        pure t
      | none => readRaw n false
    match t with
    | .newline => if lines then readToken n position lines else return t
    | .word w =>
      match w.bare? with
      | some name =>
        if position.takesKeywords && keywords.contains name then return .keyword name
        else if position.takesAliases || (← get).follows then
          match ← alias? name with
          | some text =>
            enterAlias name text
            let after := match position with
              | .argument => .front
              | .pattern => .command
              | other => other
            readToken n after lines
          | none => return t
        else return t
      | none => return t
    | _ => return t

/-- A list of commands; those read so far come last first. -/
def readList : Nat → ListKind → List Command → Read Command
  | 0, _, acc => return .ofList acc
  | n + 1, kind, acc => do
    let t ← readToken n .command (kind ≠ .line)
    match t with
    | .newline => return .ofList acc
    | .finish => hold t; return .ofList acc
    | _ =>
      hold t
      if t.endsList && (kind == .any || (kind == .body && !acc.isEmpty)) then return .ofList acc
      else
        let line := (← get).line
        let c ← readChain n none
        let t' ← readToken n .argument false
        let acc' := (if t'.isSign "&" then .background line c else c) :: acc
        match t' with
        | .finish => hold t'; return .ofList acc'
        | .newline => if kind = .line then return .ofList acc' else readList n kind acc'
        | .sign "&" => readList n kind acc'
        | .sign ";" => readList n kind acc'
        | _ => if kind = .line then unexpected t' none else hold t'; return .ofList acc'

/-- Pipelines joined by `&&` and `||`. -/
def readChain : Nat → Option (Command × Bool) → Read Command
  | 0, _ => return .nothing
  | n + 1, before => do
    let p ← readPipeline n before.isSome
    let c := match before with
      | none => p
      | some (b, true) => .both b p
      | some (b, false) => .either b p
    let t ← readToken n .argument false
    if t.isSign "&&" then readChain n (some (c, true))
    else if t.isSign "||" then readChain n (some (c, false))
    else hold t; return c

def readPipeline : Nat → Bool → Read Command
  | 0, _ => return .nothing
  | n + 1, lines => do
    let t ← readToken n .command lines
    if t.isKeyword "!" then
      let stages ← readStages n false
      return .negated stages
    else
      hold t
      readStages n false

/-- Commands joined by `|`. -/
def readStages : Nat → Bool → Read Command
  | 0, _ => return .nothing
  | n + 1, lines => do
    let c ← readCommand n lines
    let t ← readToken n .argument false
    if t.isSign "|" then
      match ← readStages n true with
      | .pipeline stages => return .pipeline (c :: stages)
      | other => return .pipeline [c, other]
    else
      hold t
      return c

/-- The token that closes a command, or a complaint. -/
def readClose : Nat → Token → Read Unit
  | 0, _ => pure ()
  | n + 1, due => do
    let t ← readToken n .argument false
    match t, due with
    | .sign s, .sign s' => if s ≠ s' then unexpected t (some due.name)
    | .keyword s, .keyword s' => if s ≠ s' then unexpected t (some due.name)
    | _, _ => unexpected t (some due.name)

def readCommand : Nat → Bool → Read Command
  | 0, _ => return .nothing
  | n + 1, lines => do
    let t ← readToken n .command lines
    let line := (← get).line
    match t with
    | .word _ => hold t; readSimple n line [] [] []
    | .redirect _ _ => hold t; readSimple n line [] [] []
    | .keyword "if" =>
      let c ← readCond n
      readClose n (.keyword "fi")
      readRedirects n line c []
    | .keyword "while" =>
      let c ← readLoop n false
      readRedirects n line c []
    | .keyword "until" =>
      let c ← readLoop n true
      readRedirects n line c []
    | .keyword "for" =>
      let c ← readEach n line
      readRedirects n line c []
    | .keyword "case" =>
      let subject ← readToken n .argument false
      match subject with
      | .word w =>
        let t' ← readToken n .command true
        if !t'.isKeyword "in" then unexpected t' (some "\"in\"")
        let arms ← readArms n []
        readRedirects n line (.choice line w arms) []
      | other => unexpected other (some "word")
    | .sign "(" =>
      let body ← readList n .body []
      readClose n (.sign ")")
      readRedirects n line (.subshell line body []) []
    | .keyword "\x7b" =>
      let body ← readList n .body []
      readClose n (.keyword "\x7d")
      readRedirects n line body []
    | _ => unexpected t none

/-- What follows `if` or `elif`, up to the closing keyword. -/
def readCond : Nat → Read Command
  | 0 => return .nothing
  | n + 1 => do
    let test ← readList n .body []
    readClose n (.keyword "then")
    let yes ← readList n .body []
    let t ← readToken n .argument false
    if t.isKeyword "elif" then return .cond test yes (← readCond n)
    else if t.isKeyword "else" then return .cond test yes (← readList n .body [])
    else
      hold t
      return .cond test yes .nothing

def readLoop : Nat → Bool → Read Command
  | 0, _ => return .nothing
  | n + 1, reversed => do
    let test ← readList n .body []
    readClose n (.keyword "do")
    let body ← readList n .body []
    readClose n (.keyword "done")
    return .loop reversed test body

/-- The words up to a token that is none, and that token. -/
def readWords : Nat → List Word → Read (List Word × Token)
  | 0, acc => return (acc.reverse, .finish)
  | n + 1, acc => do
    match ← readToken n .argument false with
    | .word w => readWords n (w :: acc)
    | t => return (acc.reverse, t)

def readEach : Nat → Nat → Read Command
  | 0, _ => return .nothing
  | n + 1, line => do
    let name := match ← readToken n .argument false with
      | .word w => (Word.bare? w).filter isName
      | _ => none
    match name with
    | none => complain "Bad for loop variable"
    | some name =>
      let t ← readToken n .command true
      let words ← if t.isKeyword "in" then do
          let (words, t') ← readWords n []
          match t' with
          | .newline => pure words
          | .sign ";" => pure words
          | _ => unexpected t' none
        else do
          if !t.isSign ";" then hold t
          pure [[.mark, .param "@" .value true, .mark]]
      let t' ← readToken n .command true
      if !t'.isKeyword "do" then unexpected t' (some "\"do\"")
      let body ← readList n .body []
      readClose n (.keyword "done")
      return .each line name words body

/-- The patterns of an arm up to its closing parenthesis; the first is at hand. -/
def readPatterns : Nat → Token → Read (List Word)
  | 0, _ => return []
  | n + 1, t => do
    let w : Word := match t with
      | .word w => w
      | .keyword s => [.text s.toList false]
      | _ => []
    let t' ← readToken n .argument false
    if t'.isSign "|" then return w :: (← readPatterns n (← readToken n .argument false))
    else if t'.isSign ")" then return [w]
    else unexpected t' (some "\")\"")

/-- The arms of a choice, up to its closing keyword. -/
def readArms : Nat → List (List Word × Command) → Read (List (List Word × Command))
  | 0, acc => return acc.reverse
  | n + 1, acc => do
    let t ← readToken n .pattern true
    if t.isKeyword "esac" then return acc.reverse
    else
      let t' ← if t.isSign "(" then readToken n .argument false else pure t
      let patterns ← readPatterns n t'
      let body ← readList n .any []
      let after ← readToken n .pattern true
      let arms := (patterns, body) :: acc
      if after.isKeyword "esac" then return arms.reverse
      else if after.isSign ";;" then readArms n arms
      else unexpected after (some "\";;\"")

/-- The target of a redirection whose sign has been read. -/
def readTarget : Nat → Nat → String → Read Redirect
  | 0, d, sign => return .mk d (redirectKind sign) []
  | n + 1, d, sign => do
    let document := sign == "<<" || sign == "<<-"
    match ← readRaw n document with
    | .word w =>
      if document then
        let s ← get
        let p : Pending := {
          number := s.documents.size
          closing := ((Word.text? w).getD "").toList
          stripTabs := sign == "<<-"
          literal := w.isQuoted }
        set { s with documents := s.documents.push [], pending := s.pending ++ [p] }
        return .mk d (.document p.number) []
      else return .mk d (redirectKind sign) w
    | t => unexpected t none

/-- The redirections after a command. -/
def readRedirects : Nat → Nat → Command → List Redirect → Read Command
  | 0, _, c, _ => return c
  | n + 1, line, c, acc => do
    match ← readToken n .command false with
    | .redirect d sign =>
      let r ← readTarget n d sign
      readRedirects n line c (r :: acc)
    | t =>
      hold t
      if acc.isEmpty then return c
      else match c with
        | .subshell l body _ => return .subshell l body acc.reverse
        | _ => return .redirected line c acc.reverse

/-- A simple command or the definition of a function. -/
def readSimple : Nat → Nat → List (String × Word) → List Word → List Redirect → Read Command
  | 0, line, settings, words, redirects =>
    return .simple line settings.reverse words.reverse redirects.reverse
  | n + 1, line, settings, words, redirects => do
    let finished : Command := .simple line settings.reverse words.reverse redirects.reverse
    let t ← readToken n (if words.isEmpty then .front else .argument) false
    match t with
    | .word w =>
      match if words.isEmpty then Word.setting? w else none with
      | some setting => readSimple n line (setting :: settings) words redirects
      | none => readSimple n line settings (w :: words) redirects
    | .redirect d sign =>
      let r ← readTarget n d sign
      readSimple n line settings words (r :: redirects)
    | .sign "(" =>
      match words, settings, redirects with
      | [w], [], [] =>
        readClose n (.sign ")")
        match (Word.text? w).filter isName with
        | some name =>
          if specialBuiltins.contains name then complain "Bad function name"
          else return .define name (← readCommand n true)
        | none => complain "Bad function name"
      | _, _, _ => hold t; return finished
    | _ => hold t; return finished

end

/-- The commands of the next line of a script, and what is left of it. Nothing when the script
has ended. -/
def Source.next (s : Source) : Except SyntaxFault (Option Command × Source) :=
  let aliased := s.aliases.foldl (fun n (_, text) => n + text.length) 1
  let steps := 8 * s.rest.length * aliased + 64
  let read : Read (Option Command) := do
    let t ← readToken steps .command false
    match t with
    | .finish => return none
    | _ => hold t; return some (← readList steps .line [])
  match read { s with held := none } with
  | .ok c s' => .ok (c, s')
  | .error e _ => .error e

end BundleBuild.Shell
