/-
Running commands. A bound on the depth of commands within commands makes every run end; a script
that goes deeper ends as one that has used up its memory. Loops have a bound of their own, beyond
which a script counts as one that never ends. Background commands are run at once, and their time is
kept apart.
-/
import BundleBuild.Shell.Builtin

namespace BundleBuild.Shell

/-- How deep commands stand in commands at most. -/
def depthLimit : Nat := 40000

/-- How deep functions call functions at most. -/
def callLimit : Nat := 1000

/-- How often a loop is gone through at most. -/
def loopLimit : Nat := 100000

/-- The program that the first line of a script names to run it, with its argument. Blanks end the
name, and all that follows them is one argument. -/
def interpreter? (content : String) : Option (String × Option String) :=
  match content.toList with
  | '#' :: '!' :: rest =>
    let isBlank (c : Char) : Bool := c = ' ' || c = '\t'
    let line := (rest.takeWhile (· ≠ '\n')).dropWhile isBlank
    let name := line.takeWhile fun c => !isBlank c
    let arg := (((line.dropWhile fun c => !isBlank c).dropWhile isBlank).reverse.dropWhile
      isBlank).reverse
    if name.isEmpty then none
    else some (String.ofList name, if arg.isEmpty then none else some (String.ofList arg))
  | _ => none

/-- A program of the system with the name and the arguments it is started with. -/
structure Start where
  program : String
  name : String
  args : List String

/-- What is started for a path: a program of the system, or the one that a script names. -/
def resolve (v : Volume) : Nat → String → List String → Except SystemCause Start
  | 0, _, _ => .error .tooManyLinks
  | n + 1, path, args =>
    if Act.programDirs.contains (dirName path) && Act.isProgram (baseName path) then
      .ok ⟨baseName path, path, args⟩
    else match v.locate (pathOf path) with
      | .ok (.there _ (.file content true)) =>
        match interpreter? (ofBytes content) with
        | some (name, arg) => resolve v n name (arg.toList ++ path :: args)
        | none => .error .execFormat
      | .ok (.there _ _) => .error .permission
      | .ok (.vacant _) => .error .notFound
      | .error e => .error e

namespace Act

/-- How a body ended, where it did not run to its end. -/
def attempt (body : Act Unit) : Act (Option Stop) := fun s =>
  match body s with
  | .ok _ s' => .ok none s'
  | .error e s' => .ok (some e) s'

/-- Runs a body and then, however it ended, another one. -/
def thenAlways (body after : Act Unit) : Act Unit := do
  let stop ← attempt body
  after
  match stop with
  | some e => throw e
  | none => pure ()

/-- Goes through a loop until a step asks for no other; each step gets the status of the one
before. -/
def repeatWhile : Nat → (Nat → Act (Bool × Nat)) → Nat → Act Nat
  | 0, _, _ => throw .endless
  | n + 1, step, last => do
    let (again, last') ← step last
    if again then repeatWhile n step last' else return last'

/-- Goes through a script until a step leaves nothing of it. -/
def goThrough : Nat → (Source → Act (Option Source)) → Source → Act Unit
  | 0, _, _ => pure ()
  | n + 1, step, source => do
    match ← step source with
    | some rest => goThrough n step rest
    | none => pure ()

/-- What becomes of a loop when its body ended: whether it goes on. -/
def afterBody : Option Stop → Act Bool
  | none => return true
  | some (.leave n) => if n ≤ 1 then return false else throw (.leave (n - 1))
  | some (.resume n) => if n ≤ 1 then return true else throw (.resume (n - 1))
  | some e => throw e

/-- Leaves a loop as it was entered. -/
def inLoop (body : Act Unit) : Act Unit := do
  let loops := (← shell).loops
  modifyShell fun sh => { sh with loops := loops + 1 }
  thenAlways body (modifyShell fun sh => { sh with loops := loops })

/-! ## Redirections -/

/-- A redirection with its target known. -/
structure Target where
  descriptor : Nat
  kind : RedirectKind
  text : String

def isDescriptor (s : String) : Bool :=
  match s.toList with
  | [c] => c.isDigit
  | _ => false

/-- The target of a redirection, or the text of its here-document. -/
def targetOf (capture : Capture) (r : Redirect) : Act Target := do
  let word ← match r.kind with
    | .document k => do pure ((← world).documents[k]?.getD [])
    | _ => pure r.target
  let text ← match r.kind with
    | .document _ => do pure (Cell.text (← wordCells capture (wordDepth word) false word))
    | _ => expandText capture word
  if r.kind = .copy && text ≠ "-" && !isDescriptor text then fail "Syntax error: Bad fd number"
  else return ⟨r.descriptor, r.kind, text⟩

/-- The descriptor that a path of the system stands for. -/
def deviceDescriptor? (path : String) : Option Nat :=
  match path with
  | "/dev/stdin" => some 0
  | "/dev/stdout" => some 1
  | "/dev/stderr" => some 2
  | _ => match (path.toList.drop 8) with
    | [c] => if path.startsWith "/dev/fd/" && c.isDigit then some (digitValue c) else none
    | _ => none

/-- A new or an old file that can be written to. -/
def openOutput (path : String) (appends keeps forced : Bool) : Act Nat := do
  let refuse (text : String) : Act Nat := fail ("cannot create " ++ path ++ ": " ++ text)
  let v ← volume
  match if path.isEmpty then .error .notFound else v.locate (pathOf path) with
  | .ok (.there at_ (.file content executable)) =>
    if !appends && !keeps then
      if !forced && (← isOn 'C') then refuse "File exists"
      else
        setVolume (v.place at_ (.file [] executable))
        openFile ⟨.file at_, 0, false⟩
    else openFile ⟨.file at_, if appends then content.length else 0, appends⟩
  | .ok (.there _ _) => refuse "Is a directory"
  | .ok (.vacant at_) =>
    setVolume (v.place at_ (.file [] false))
    openFile ⟨.file at_, 0, appends⟩
  | .error .notFound => refuse "Directory nonexistent"
  | .error .notDirectory => refuse "Directory nonexistent"
  | .error e => refuse e.words

def openInput (path : String) : Act Nat := do
  let refuse (text : String) : Act Nat := fail ("cannot open " ++ path ++ ": " ++ text)
  let v ← volume
  match if path.isEmpty then .error .notFound else v.locate (pathOf path) with
  | .ok (.there at_ (.file _ _)) => openFile ⟨.file at_, 0, false⟩
  | .ok (.there _ _) => openFile ⟨.nowhere, 0, false⟩
  | .ok (.vacant _) => refuse "No such file"
  | .error .notFound => refuse "No such file"
  | .error .notDirectory => refuse "No such file"
  | .error e => refuse e.words

/-- Leads a descriptor to its target. -/
def redirect (t : Target) : Act Unit := do
  let lead (file : Nat) : Act Unit := setDescriptor t.descriptor (some file)
  let copy (d : Nat) : Act Unit := do
    match ← fileOf? d with
    | some f => lead f
    | none => fail (Nat.repr d ++ ": Bad file descriptor")
  match t.kind with
  | .copy =>
    if t.text == "-" then setDescriptor t.descriptor none
    else copy (readDigits 10 t.text.toList).1
  | .document _ =>
    let k ← openPipe
    modifyWorld fun w => { w with pipes := w.pipes.set! k t.text.toList.toArray }
    lead (← openFile ⟨.pipe k, 0, false⟩)
  | kind =>
    if t.text == "/dev/null" then lead (← openFile ⟨.nowhere, 0, false⟩)
    else match deviceDescriptor? t.text with
      | some d => copy d
      | none => match kind with
        | .input => lead (← openInput t.text)
        | .append => lead (← openOutput t.text true false true)
        | .both => lead (← openOutput t.text false true true)
        | .overwrite => lead (← openOutput t.text false false true)
        | _ => lead (← openOutput t.text false false false)

/-- Runs a body with descriptors led elsewhere. Where one cannot be, the body is not run: the
status says so, or the shell ends if `strict` says so. -/
def redirected (targets : List Target) (strict : Bool) (body : Act Unit) : Act Unit := do
  let saved := (← shell).descriptors
  let restore : Act Unit := modifyShell fun sh => { sh with descriptors := saved }
  match ← attempt (targets.forM redirect) with
  | some .fault =>
    restore
    if strict then throw .fault else setStatus 2
  | some e => throw e
  | none => thenAlways body restore

/-! ## Processes -/

/-- Runs a body in a copy of the shell; the status it ends with comes back. -/
def inSubshell (finish : Act Unit) (body : Act Unit) : Act Nat := do
  let saved ← shell
  modifyShell fun sh => { sh with
    isSubshell := true
    outerTraps := if sh.isSubshell then sh.outerTraps else sh.traps
    traps := sh.traps.filter fun (_, action) => action.isEmpty
    jobs := [] }
  let stop ← attempt (do
    let stop ← attempt body
    match stop with
    | some (.killed p n) => throw (.killed p n)
    | some .endless => throw .endless
    | _ => finish)
  let status := (← shell).status
  modifyShell fun _ => saved
  match stop with
  | some (.killed p n) => throw (.killed p n)
  | some .endless => throw .endless
  | _ => return status % 256

/-- The effect of a program of the system on descriptors, files and time. -/
def runUtility (run : Call → Effect) (name : String) (args : List String) : Act Unit := do
  let input ← readRest 0
  let files := (← world).files
  let isFile := match (← fileOf? 0).bind fun f => files[f]? with
    | some ⟨.file _, _, _⟩ => true
    | _ => false
  let isClosed := (← fileOf? 0).isNone
  let e := run {
    name := name, args := args, input := input, inputIsClosed := isClosed, inputIsFile := isFile
    volume := ← volume }
  let e ← if (← fileOf? 1).isSome then pure e else pure (e.withoutOutput name)
  skipRead 0 e.taken
  e.flow.forM fun (isOut, cs) => do
    let _ ← write (if isOut then 1 else 2) cs
  let _ ← write 2 e.err
  let _ ← write 1 e.out
  match e.volume with
  | some v => setVolume v
  | none => pure ()
  spend e.milliseconds
  setStatus e.status

/-- The shell that a process of its own starts with: only what is exported goes over. -/
def freshShell (sh : Interpreter) (name directory : String) (process : Nat) :
    Interpreter where
  name := name
  bindings := (sh.bindings.filter fun (k, v) => v.exported && k != "IFS").map (fun (k, v) =>
      (k, { v with fixed := false })) ++
    [("IFS", { value := some " \t\n" }), ("OPTIND", { value := some "1" })]
  descriptors := sh.descriptors
  home := sh.home
  directory := directory
  mask := sh.mask
  traps := sh.traps.filter fun (_, action) => action.isEmpty
  process := process

/-- The path a process takes its place for: what the variable for it says, if that leads there. -/
def firstDirectory : Act String := do
  let v ← volume
  let variable_ ← binding? "PWD"
  match variable_.bind fun b => if b.exported then b.value else none with
  | some path =>
    match v.locate (pathOf path) with
    | .ok (.there at_ .dir) =>
      return if path.startsWith "/" && at_ == v.home then path else locationPath v.home
    | _ => return locationPath v.home
  | none => return locationPath v.home

/-- Runs a body as a process; a signal that ends it is reported, unless the process takes the place
of the shell itself. -/
def asProcess (name : String) (inPlace : Bool) (body : Act Unit) : Act Unit := do
  let saved ← shell
  let w ← world
  let process := if inPlace then saved.process else w.processes + 1
  if !inPlace then modifyWorld fun w => { w with processes := w.processes + 1 }
  let directory ← firstDirectory
  modifyShell fun sh => freshShell sh name directory process
  let stop ← attempt body
  let status := (← shell).status % 256
  modifyShell fun _ => saved
  match stop with
  | some (.killed p n) =>
    if p = process && !inPlace then
      match endedBy? n with
      | some text => let _ ← write 2 (text ++ "\n").toList
      | none => pure ()
      setStatus (128 + n)
    else throw (.killed p n)
  | some .endless => throw .endless
  | _ => setStatus status

/-- What a shell was asked to run. -/
inductive Errand where
  | text (s : String)
  | file (path : String)
  | input

/-- Reads the arguments of a shell. -/
def shellArguments : Nat → List String → Bool → Act (List String × Bool)
  | 0, args, fromText => return (args, fromText)
  | _ + 1, [], fromText => return ([], fromText)
  | n + 1, arg :: rest, fromText => do
    match arg.toList with
    | ['-'] => return (rest, fromText)
    | ['-', '-'] => return (rest, fromText)
    | sign :: cs =>
      if sign = '-' || sign = '+' then
        let letters := cs.filter fun c => c ≠ 'c' && c ≠ 'l'
        let rest' ← setLetters (sign = '-') letters rest
        shellArguments n rest' (fromText || cs.contains 'c')
      else return (arg :: rest, fromText)
    | [] => return (arg :: rest, fromText)

def errand (args : List String) : Act Errand := do
  let (operands, fromText) ← shellArguments (args.length + 1) args false
  match operands with
  | [] =>
    if fromText then fail "-c requires an argument"
    else return .input
  | first :: rest =>
    if fromText then
      match rest with
      | name :: args =>
        modifyShell fun sh => { sh with name := name, args := args }
        return .text first
      | [] => return .text first
    else if ← isOn 's' then
      modifyShell fun sh => { sh with args := operands }
      return .input
    else
      modifyShell fun sh => { sh with args := rest }
      return .file first

/-- What is printed of a command before it runs. -/
def trace (file : Option Nat) (words : List String) : Act Unit := do
  if ← isOn 'x' then
    let start := (← value? "PS4").getD "+ "
    match file with
    | some f => writeFile f (start ++ " ".intercalate words ++ "\n").toList
    | none => pure ()

/-- The fields of a command. After a command that sets variables, a word of that form is not cut. -/
def commandFields (capture : Capture) (words : List Word) : Act (List String) := do
  match words with
  | [] => return []
  | first :: rest =>
    let start ← expandFields capture first
    let sets := match start.head? with
      | some name => ["export", "readonly", "local", "alias"].contains name
      | none => false
    let more ← rest.mapM fun w => do
      match if sets then Word.setting? w else none with
      | some (name, value) => return [name ++ "=" ++ (← expandSetting capture value)]
      | none => expandFields capture w
    return start ++ more.flatten

/-- Sets variables one after another, each with the ones before at hand; their values come back. -/
def setVariables (capture : Capture) (settings : List (String × Word)) :
    Act (List (String × String)) :=
  settings.mapM fun (name, w) => do
    let value ← expandSetting capture w
    assign name value
    return (name, value)

/-- Marks variables for the programs that one command starts. -/
def exportAll (names : List String) : Act Unit :=
  names.forM fun name => do
    let v := (← binding? name).getD { value := none }
    setVariable name (some { v with exported := true })

def restoreVariables (settings : List (String × Option Variable)) : Act Unit :=
  settings.reverse.forM fun (name, old) => setVariable name old

/-- Runs the body of a builtin command under its name; a fault in it ends the shell only if the
command is a special one. -/
def asBuiltin (name : String) (body : Act Unit) : Act Unit := do
  let command := (← shell).command
  modifyShell fun sh => { sh with command := some name }
  let stop ← attempt body
  modifyShell fun sh => { sh with command := command }
  match stop with
  | some .fault => if specialBuiltins.contains name then throw .fault
  | some e => throw e
  | none => pure ()

mutual

/-- Runs a command. `tested`: its failure is looked at and does not end the shell. -/
def run : Nat → Bool → Command → Act Unit
  | 0, _, _ => do throw (.killed (← shell).process 11)
  | n + 1, tested, c => do
    if ← isOn 'n' then return ()
    let checked ← match c with
      | .seq cs => do
        cs.forM (run n tested)
        pure false
      | .simple line settings words redirects => do
        runSimple n tested line settings words redirects
        pure true
      | .both a b => do
        run n true a
        if (← shell).status = 0 then run n tested b
        pure false
      | .either a b => do
        run n true a
        if (← shell).status ≠ 0 then run n tested b
        pure false
      | .negated a => do
        run n true a
        setStatus (if (← shell).status = 0 then 1 else 0)
        pure false
      | .cond test yes no => do
        run n true test
        if (← shell).status = 0 then run n tested yes
        else
          setStatus 0
          run n tested no
        pure false
      | .loop reversed test body => do
        inLoop do
          let last ← repeatWhile loopLimit (fun last => do
            let stop ← attempt (run n true test)
            if stop.isSome then return (← afterBody stop, last)
            else if ((← shell).status = 0) = reversed then return (false, last)
            else
              let stop ← attempt (run n tested body)
              let status := (← shell).status
              return (← afterBody stop, status)) 0
          setStatus last
        pure false
      | .each line name words body => do
        modifyShell fun sh => { sh with line := line }
        let values := (← words.mapM (expandFields (capture n))).flatten
        setStatus 0
        inLoop do
          let _ ← values.foldlM (fun (again : Bool) value => do
            if again then
              assign name value
              let stop ← attempt (run n tested body)
              afterBody stop
            else return false) true
        pure false
      | .choice line subject arms => do
        modifyShell fun sh => { sh with line := line }
        let text ← expandText (capture n) subject
        setStatus 0
        let _ ← arms.foldlM (fun (open_ : Bool) arm => do
          if !open_ then return false
          else
            let fits ← arm.1.foldlM (fun (found : Bool) w => do
              if found then return true
              else return (← expandPattern (capture n) w).fits text.toList) false
            if fits then
              run n tested arm.2
              return false
            else return true) true
        pure false
      | .subshell line body redirects => do
        modifyShell fun sh => { sh with line := line }
        let targets ← redirects.mapM (targetOf (capture n))
        let status ← inSubshell (runExitTrap n) (do
          targets.forM redirect
          run n tested body)
        setStatus status
        pure true
      | .redirected line body redirects => do
        modifyShell fun sh => { sh with line := line }
        let targets ← redirects.mapM (targetOf (capture n))
        redirected targets false (run n tested body)
        pure false
      | .pipeline stages => do
        runPipeline n tested stages
        pure true
      | .background line body => do
        runBackground n line body
        pure false
      | .define name body => do
        modifyShell fun sh => { sh with functions := sh.functions.put name body }
        setStatus 0
        pure false
    runCaught n
    if checked && !tested && (← shell).status ≠ 0 && (← isOn 'e') then throw .exit

/-- What commands write when they are run in a subshell. -/
def capture : Nat → Capture
  | 0, _ => do throw (.killed (← shell).process 11)
  | n + 1, body => do
    let k ← openPipe
    let file ← openFile ⟨.pipe k, 0, false⟩
    let status ← inSubshell (runExitTrap n) (do
      setDescriptor 1 (some file)
      match body with
      | .seq [] => setStatus 0
      | _ => run n false body)
    modifyShell fun sh => { sh with outputStatus := status }
    return String.ofList ((← world).pipes[k]?.getD #[]).toList

/-- Runs what the traps say for the signals that have come. -/
def runCaught : Nat → Act Unit
  | 0 => pure ()
  | n + 1 => do
    let sh ← shell
    match sh.caught with
    | [] => pure ()
    | signal :: rest =>
      modifyShell fun sh => { sh with caught := rest }
      match sh.traps.find? fun (k, _) => k == signal with
      | some (_, action) =>
        let status := sh.status
        runText n false action
        setStatus status
      | none => pure ()
      runCaught n

/-- Runs what is to be run at the end of a shell. -/
def runExitTrap : Nat → Act Unit
  | 0 => pure ()
  | n + 1 => do
    let sh ← shell
    match sh.traps.find? fun (k, _) => k == 0 with
    | none => pure ()
    | some (_, action) =>
      modifyShell fun sh => { sh with traps := sh.traps.filter fun (k, _) => k != 0 }
      let status := sh.status
      runText n false action
      setStatus status

/-- Runs commands given as a text, line by line. -/
def runText : Nat → Bool → String → Act Unit
  | 0, _, _ => do throw (.killed (← shell).process 11)
  | n + 1, tested, text =>
    goThrough (text.length + 2) (fun source => do
      let aliases := (← shell).aliases
      match Source.next { source with documents := (← world).documents, aliases := aliases } with
      | .error mistake =>
        modifyShell fun sh => { sh with line := mistake.line }
        fail ("Syntax error: " ++ mistake.text)
      | .ok (none, _) => return none
      | .ok (some c, rest) =>
        modifyWorld fun w => { w with documents := rest.documents }
        run n tested c
        return some rest) { rest := text.toList }

/-- Runs the stages of a pipeline, each with the output of the one before; they take as long as
the longest of them. -/
def runPipeline : Nat → Bool → List Command → Act Unit
  | 0, _, _ => do throw (.killed (← shell).process 11)
  | n + 1, _, stages => do
    let start := (← world).clock
    let count := stages.length
    let (_, status, ends) ← ((List.range count).zip stages).foldlM
      (fun ((input, _, ends) : Option Nat × Nat × Nat) (i, stage) => do
        modifyWorld fun w => { w with clock := start }
        let k ← openPipe
        let output ← openFile ⟨.pipe k, 0, false⟩
        let status ← inSubshell (runExitTrap n) (do
          match input with
          | some f => setDescriptor 0 (some f)
          | none => pure ()
          if i + 1 < count then setDescriptor 1 (some output)
          run n false stage)
        let next ← openFile ⟨.pipe k, 0, false⟩
        return (some next, status, max ends (← world).clock)) (none, 0, start)
    modifyWorld fun w => { w with clock := ends }
    setStatus status

/-- Runs a command at once but lets its time go on beside the rest. -/
def runBackground : Nat → Nat → Command → Act Unit
  | 0, _, _ => do throw (.killed (← shell).process 11)
  | n + 1, line, body => do
    modifyShell fun sh => { sh with line := line }
    let start := (← world).clock
    let process := (← world).processes + 1
    modifyWorld fun w => { w with processes := process }
    let nothing ← openFile ⟨.nowhere, 0, false⟩
    let (status, ends) ← (do
        let status ← inSubshell (runExitTrap n) (do
          setDescriptor 0 (some nothing)
          run n false body)
        return (status, (← world).clock)) |> fun (body : Act (Nat × Nat)) => tryCatch body fun e => do
          if e = .endless then return (0, start + foreverMilliseconds) else throw e
    modifyWorld fun w => { w with clock := start, lingering := max w.lingering ends }
    modifyShell fun sh => { sh with
      lastBackground := some process
      jobs := (process, status, ends) :: sh.jobs
      status := 0 }

/-- Runs a simple command: fields, then redirections, then settings, then the command itself. -/
def runSimple : Nat → Bool → Nat → List (String × Word) → List Word → List Redirect → Act Unit
  | 0, _, _, _, _, _ => do throw (.killed (← shell).process 11)
  | n + 1, tested, line, settings, words, redirects => do
    modifyShell fun sh => { sh with line := line, outputStatus := 0 }
    let fields ← commandFields (capture n) words
    let targets ← redirects.mapM (targetOf (capture n))
    let complaints ← fileOf? 2
    let traced (values : List (String × String)) : Act Unit :=
      trace complaints (values.map (fun (k, v) => k ++ "=" ++ v) ++ fields)
    match fields with
    | [] =>
      setStatus 0
      redirected targets false (do
        let values ← setVariables (capture n) settings
        if !values.isEmpty then traced values
        setStatus (← shell).outputStatus)
    | name :: args =>
      let special := specialBuiltins.contains name
      if name == "exec" && args.isEmpty then
        let stop ← attempt (targets.forM redirect)
        if stop.isSome then throw .fault
        let _ ← setVariables (capture n) settings
        setStatus 0
      else redirected targets special (do
        let old ← settings.mapM fun (name, _) => do return (name, ← binding? name)
        let values ← setVariables (capture n) settings
        traced values
        if special then runNamed n tested name args true
        else
          exportAll (settings.map (·.1))
          thenAlways (runNamed n tested name args true) (restoreVariables old))

/-- Runs a function, a builtin command or a program by name. -/
def runNamed : Nat → Bool → String → List String → Bool → Act Unit
  | 0, _, _, _, _ => do throw (.killed (← shell).process 11)
  | n + 1, tested, name, args, functions => do
    let sh ← shell
    match if functions then sh.functions.get? name else none with
    | some body => callFunction n tested body args
    | none =>
      match builtin? name with
      | some body => asBuiltin name (body args)
      | none =>
        match name with
        | "eval" => asBuiltin name (do
            setStatus 0
            runText n tested (" ".intercalate args))
        | "." => asBuiltin name (runSource n tested args)
        | "command" => runPlainly n tested args
        | "exec" => asBuiltin name (do
            match args with
            | [] => setStatus 0
            | program :: rest =>
              runProgram n program rest true
              modifyShell fun sh => { sh with traps := [] }
              throw .exit)
        | _ => runProgram n name args false

/-- Runs a function with its arguments; what it hides comes back when it is left. -/
def callFunction : Nat → Bool → Command → List String → Act Unit
  | 0, _, _, _ => do throw (.killed (← shell).process 11)
  | n + 1, tested, body, args => do
    let before ← shell
    if callLimit ≤ before.calls then
      fail ("Maximum function recursion depth (" ++ Nat.repr callLimit ++ ") reached")
    modifyShell fun sh => { sh with
      args := args, loops := 0, calls := sh.calls + 1, optionPlace := 0
      hidden := [] :: sh.hidden }
    let stop ← attempt (run n tested body)
    let frame := (← shell).hidden.headD []
    modifyShell fun sh => { sh with
      args := before.args, loops := before.loops, calls := before.calls
      optionPlace := before.optionPlace, hidden := before.hidden }
    restoreVariables frame
    match stop with
    | none => pure ()
    | some .return => pure ()
    | some e => throw e

/-- Runs the commands of a file in the shell itself. -/
def runSource : Nat → Bool → List String → Act Unit
  | 0, _, _ => do throw (.killed (← shell).process 11)
  | _ + 1, _, [] => setStatus 0
  | n + 1, tested, file :: _ => do
    let v ← volume
    let path ← if file.toList.contains '/' then pure (some file)
      else do
        let dirs := splitText ':' ((← value? "PATH").getD "")
        pure ((dirs.map fun dir => if dir.isEmpty then file else dir ++ "/" ++ file).find?
          (fileHas v 'f'))
    match path with
    | none => fail (file ++ ": not found")
    | some path =>
      match v.read (pathOf path) with
      | .error _ => fail ("cannot open " ++ path ++ ": No such file")
      | .ok content =>
        setStatus 0
        modifyShell fun sh => { sh with command := some path }
        match ← attempt (runText n tested (ofBytes content)) with
        | none => pure ()
        | some .return => pure ()
        | some e => throw e

/-- Runs a command that is no function, or says what a name stands for. -/
def runPlainly : Nat → Bool → List String → Act Unit
  | 0, _, _ => do throw (.killed (← shell).process 11)
  | n + 1, tested, args => do
    let isAsked (arg : String) : Bool := arg == "-v" || arg == "-V"
    match if args.head? == some "-p" then args.drop 1 else args with
    | [] => setStatus 0
    | first :: rest =>
      if isAsked first then
        setStatus 0
        match rest with
        | [] => pure ()
        | name :: _ =>
          match ← describe name (first == "-v") with
          | some text => say (text ++ "\n").toList
          | none =>
            if first == "-V" then say (name ++ ": not found\n").toList
            setStatus 127
      else
        match ← attempt (runNamed n tested first rest false) with
        | none => pure ()
        | some .fault => pure ()
        | some e => throw e

/-- Finds a program and runs it; `inPlace`: in the place of the shell itself. -/
def runProgram : Nat → String → List String → Bool → Act Unit
  | 0, _, _, _ => do throw (.killed (← shell).process 11)
  | n + 1, name, args, inPlace => do
    let v ← volume
    let path ← if name.toList.contains '/' then pure (some name) else search? name
    let start : Except SystemCause Start := match path with
      | none => .error (if name.isEmpty then .permission else .notFound)
      | some path => match resolve v 5 path args with
        | .error .execFormat => .ok ⟨"sh", "/bin/sh", path :: args⟩
        | .ok st => .ok (if st.name == path then { st with name := name } else st)
        | .error e => .error e
    match start with
    | .ok st => runStart n st inPlace
    | .error e =>
      let isAbsent := e = .notFound || e = .notDirectory
      complain (name ++ ": " ++ if isAbsent then "not found" else e.words)
      setStatus (if isAbsent || e = .nameTooLong || e = .tooManyLinks || name.isEmpty then 127
        else 126)

/-- Runs a program of the system. -/
def runStart : Nat → Start → Bool → Act Unit
  | 0, _, _ => do throw (.killed (← shell).process 11)
  | n + 1, st, inPlace => do
    match utility? st.program with
    | some body => runUtility body st.name st.args
    | none =>
      asProcess st.name inPlace
        (if st.program == "env" then runEnvironment n st.name st.args else runShell n st.args)

/-- Runs a shell as a process of its own. -/
def runShell : Nat → List String → Act Unit
  | 0, _ => do throw (.killed (← shell).process 11)
  | n + 1, args => do
    let path := (← shell).directory
    setVariable "PWD" (some { value := some path, exported := true })
    let stop ← attempt (do
      match ← errand args with
      | .text s => runText n false s
      | .input =>
        let text ← readRest 0
        skipRead 0 text.length
        runText n false (String.ofList text)
      | .file path =>
        match (← volume).read (pathOf path) with
        | .error _ => fail ("cannot open " ++ path ++ ": No such file")
        | .ok content =>
          modifyShell fun sh => { sh with name := path }
          runText n false (ofBytes content))
    match stop with
    | some (.killed p k) => throw (.killed p k)
    | some .endless => throw .endless
    | _ => runExitTrap n

/-- Runs a program with other variables than those at hand, or lists them. -/
def runEnvironment : Nat → String → List String → Act Unit
  | 0, _, _ => do throw (.killed (← shell).process 11)
  | n + 1, name, args => do
    match args with
    | [] =>
      let lines := (← environment).flatMap fun (k, v) => (k ++ "=" ++ v ++ "\n").toList
      let _ ← write 1 lines
      setStatus 0
    | arg :: rest =>
      if arg == "-i" || arg == "-" || arg == "--ignore-environment" then
        modifyShell fun sh => { sh with bindings := [] }
        runEnvironment n name rest
      else if arg == "-u" then
        setVariable (rest.headD "") none
        runEnvironment n name (rest.drop 1)
      else if arg == "--" then runEnvironment n name rest
      else if arg.startsWith "--" then
        let e := Effect.misuse name ("unrecognized option '" ++ arg ++ "'")
        let _ ← write 2 e.err
        setStatus 125
      else if arg.startsWith "-" then
        let e := Effect.misuse name ("invalid option -- '" ++ String.ofList ((arg.toList.drop 1).take 1)
          ++ "'")
        let _ ← write 2 e.err
        setStatus 125
      else match settingOf arg with
        | (key, some value) =>
          setVariable key (some { value := some value, exported := true })
          runEnvironment n name rest
        | (_, none) =>
          let v ← volume
          let path ← if arg.toList.contains '/' then pure (some arg) else search? arg
          match path.map fun path => (path, resolve v 5 path rest) with
          | some (path, .ok st) =>
            runStart n (if st.name == path then { st with name := arg } else st) true
          | some (path, .error .execFormat) => runStart n ⟨"sh", "/bin/sh", path :: rest⟩ true
          | some (_, .error e) =>
            let _ ← write 2 (name ++ ": '" ++ arg ++ "': " ++ e.words ++ "\n").toList
            setStatus (if e = .notFound then 127 else 126)
          | none =>
            let _ ← write 2 (name ++ ": '" ++ arg ++ "': No such file or directory\n").toList
            setStatus 127

end

end Act

end BundleBuild.Shell
