/-
Texts with places to fill in. A place stands in braces and holds an expression, perhaps with an equals
sign, a conversion and a format behind it; a format may have places of its own. Doubled braces stand
for single ones.
-/
import BundleBuild.Literal.Escape

namespace BundleBuild.Literal

/-- What is wrong with texts that stand one after the other. -/
inductive Problem where
  | own (f : Flaw)
  /-- The flaw of what fills a place; `none` when it is nested too deep. -/
  | inner (f : Option Flaw)
  deriving DecidableEq, Repr

/-- The plain part at the front of a pattern. -/
structure PlainPart where
  text : List Char
  /-- Whether it ends with a doubled brace, of which one belongs to it. -/
  isDoubled : Bool := false
  rest : List Char

def PlainPart.cons (cs : List Char) (p : PlainPart) : PlainPart :=
  { p with text := cs ++ p.text }

/-- The plain part up to a brace. At the top two braces stand for one, and a closing one may not stand
alone. -/
def plainPart (isRaw isTop : Bool) : Nat → List Char → Except Flaw PlainPart
  | 0, cs => .ok { text := [], rest := cs }
  | _ + 1, [] => .ok { text := [], rest := [] }
  | fuel + 1, c :: rest =>
    let brace (before : List Char) (c : Char) (rest : List Char) : Except Flaw PlainPart :=
      if isTop && rest.head? = some c then
        .ok { text := before ++ [c], isDoubled := true, rest := rest.drop 1 }
      else if isTop && c = '\x7d' then .error (.pattern .singleBrace)
      else .ok { text := before, rest := c :: rest }
    let isBrace (c : Char) : Bool := c = '\x7b' || c = '\x7d'
    if c = '\\' && !isRaw then
      match rest with
      | [] => (plainPart isRaw isTop fuel rest).map (.cons [c])
      | 'N' :: '\x7b' :: more =>
        let name := more.takeWhile (· ≠ '\x7d')
        let taken := more.take (name.length + 1)
        (plainPart isRaw isTop fuel (more.drop (name.length + 1))).map
          (.cons (c :: 'N' :: '\x7b' :: taken))
      | 'N' :: d :: more => (plainPart isRaw isTop fuel more).map (.cons [c, 'N', d])
      | d :: more =>
        if isBrace d then brace [c] d more
        else (plainPart isRaw isTop fuel more).map (.cons [c, d])
    else if isBrace c then brace [] c rest
    else (plainPart isRaw isTop fuel rest).map (.cons [c])

/-- The quotes that are open in the expression of a place. -/
inductive OpenQuote where
  | short (q : Char)
  | long (q : Char)
  deriving DecidableEq, Repr

/-- The expression of a place up to what ends it, and the rest. -/
def placePart (quote : Option OpenQuote) (opened : List Char) : Nat → List Char →
    Except PatternFlaw (List Char × List Char)
  | fuel + 1, c :: rest =>
    let go (quote : Option OpenQuote) (opened : List Char) (taken : Nat) :=
      (placePart quote opened fuel (rest.drop taken)).map fun (e, after) =>
        (c :: rest.take taken ++ e, after)
    let isTripled := rest.take 2 = [c, c]
    if c = '\\' then .error .backslash
    else match quote with
    | some (.short q) => go (if c = q then none else quote) opened 0
    | some (.long q) => if c = q && isTripled then go none opened 2 else go quote opened 0
    | none =>
      if c = '\'' || c = '"' then
        if isTripled then go (some (.long c)) opened 2 else go (some (.short c)) opened 0
      else if ['(', '[', '\x7b'].contains c then
        if levelLimit ≤ opened.length then .error .tooNested else go none (c :: opened) 0
      else if c = '#' then .error .comment
      else if opened.isEmpty && ['!', ':', '\x7d', '=', '>', '<'].contains c then
        if ['!', '=', '<', '>'].contains c && rest.head? = some '=' then go none opened 1
        else if c = '>' || c = '<' then go none opened 0
        else .ok ([], c :: rest)
      else if [')', ']', '\x7d'].contains c then
        match opened with
        | [] => .error (.unmatched c)
        | o :: others =>
          if closerOf o = c then go none others 0 else .error (.mismatched c o)
      else go none opened 0
  | _, rest =>
    if quote.isSome then .error .openText
    else match opened with
      | o :: _ => .error (.unmatched o)
      | [] => .ok ([], rest)

/-- The expression that fills a place has to be one. -/
def checkPlace (check : List Char → Except (Option Flaw) Unit) (expression : List Char)
    (ender : Char) : Except Problem Unit :=
  if expression.all fun c => [' ', '\t', '\n', '\x0c'].contains c then
    .error (.own (.pattern (if ['!', ':', '='].contains ender then .emptyBefore ender else .empty)))
  else (check expression).mapError .inner

/-- What follows the conversion of a place. -/
def afterConversion : List Char → Except PatternFlaw (List Char)
  | '!' :: [] => .error .missingBrace
  | '!' :: c :: rest => if ['s', 'r', 'a'].contains c then .ok rest else .error .conversion
  | rest => .ok rest

/-- Reads a pattern, or the format of a place in one, and hands out what follows. -/
def readPattern (check : List Char → Except (Option Flaw) Unit) (isRaw : Bool) :
    Nat → Nat → List Char → Except Problem (List Char)
  | 0, _, rest => .ok rest
  | fuel + 1, level, cs => do
    let missing : Problem := .own (.pattern .missingBrace)
    let plain ← (plainPart isRaw (level = 0) (cs.length + 1) cs).mapError .own
    if !isRaw then
      match textFlawFrom? 0 (spellOut plain.text) with
      | some flaw => throw (.own flaw)
      | none => pure ()
    if plain.isDoubled then readPattern check isRaw fuel level plain.rest
    else match plain.rest with
      | [] => if level = 0 then .ok [] else .error missing
      | '\x7b' :: body =>
        if 2 ≤ level then .error (.own (.pattern .tooDeep))
        else do
          let (expression, after) ←
            (placePart none [] (body.length + 1) body).mapError (.own ∘ .pattern)
          match after with
          | [] => .error missing
          | ender :: others => do
            checkPlace check expression ender
            let after :=
              if ender = '=' then
                others.dropWhile fun c => 9 ≤ c.toNat && c.toNat ≤ 13 || c = ' '
              else after
            let after ← (afterConversion after).mapError (.own ∘ .pattern)
            let after ← match after with
              | [':'] => .error missing
              | ':' :: format => readPattern check isRaw fuel (level + 1) format
              | _ => .ok after
            match after with
            | '\x7d' :: rest => readPattern check isRaw fuel level rest
            | _ => .error missing
      | rest => .ok rest

/-- The term of texts one after the other: all of them are bytes, or none is. -/
def joinTexts (check : List Char → Except (Option Flaw) Unit) (isFirst isBytes : Bool) :
    List Quoted → Except Problem Term
  | [] => .ok (if isBytes then .bytes else .text)
  | q :: rest => do
    let own := if q.isPattern then none else q.flaw?
    match own with
    | some flaw => throw (.own flaw)
    | none => pure ()
    if !isFirst && q.isBytes ≠ isBytes then throw (.own .mixedTexts)
    if q.isPattern then
      let _ ← readPattern check q.isRaw (q.body.length + 1) 0 q.body
    let t ← joinTexts check false q.isBytes rest
    return if q.isPattern then .pattern else t

end BundleBuild.Literal
