import RamlClient.Shell.Runner
/-!
# Built-in commands for variables

Variables can be set, taken away, kept, and handed on to programs. Arguments and options of the
shell are set in the same way.
-/

namespace RamlClient.Shell.Builtin

open Text (ByteText)
open Running

/-- The name and the value in an argument. -/
def nameAndValue (arg : ByteText) : String × Option ByteText :=
  let (name, value) := Text.cutAtChar '=' arg.toList
  (String.ofList name, value.map String.ofList)

/-- Changes the variable of a name, which need not be set. -/
def changeVariable (name : String) (f : Variable → Variable) : Running Unit := do
  let v := (← variableOf? name).getD ⟨none, false, false⟩
  putVariable name (f v)

/-- Does something with the variables of arguments, after they have got their values. -/
def declareEach (f : Variable → Variable) : List ByteText → Running Unit
  | [] => pure ()
  | a :: r => do
    let (name, value) := nameAndValue a
    if !Reading.isName name then fail (name ++ ": bad variable name")
    match value with
    | some v => setVariable name v
    | none => pure ()
    changeVariable name f
    declareEach f r

/-- The variables in the order of their names. -/
def sortedVariables (p : Process) : List (String × Variable) :=
  p.vars.mergeSort fun a b => !(b.1 < a.1)

/-- The lines that declare some variables. -/
def declarations (command : String) (p : Process) (wanted : Variable → Bool) : ByteText :=
  Text.concat (((sortedVariables p).filter fun v => wanted v.2).map fun v =>
    command ++ " " ++ v.1 ++ (match v.2.value with
      | some s => "=" ++ quoted s
      | none => "") ++ "\n")

/-- Hands variables on to programs. -/
def export_ : Action := fun _ args => do
  withOptions ['p', 'n'] [] args fun os rest => do
    if rest.isEmpty then
      print (declarations "export" (← own) (·.isExported))
    else if hasLetter os 'n' then
      declareEach (fun v => { v with isExported := false }) rest
    else declareEach (fun v => { v with isExported := true }) rest
    pure 0

/-- Keeps the values of variables. -/
def readonly : Action := fun _ args => do
  withOptions ['p'] [] args fun _ rest => do
    if rest.isEmpty then print (declarations "readonly" (← own) (·.isConstant))
    else declareEach (fun v => { v with isConstant := true }) rest
    pure 0

/-- Takes variables or functions away. -/
def unset : Action := fun _ args => do
  withOptions ['f', 'v'] [] args fun os rest => do
    if hasLetter os 'f' then
      change fun p => { p with functions := p.functions.filter fun f => !rest.contains f.1 }
    else
      rest.forM fun name => do
        if !Reading.isName name then fail (name ++ ": bad variable name")
        match ← variableOf? name with
        | some v =>
          if v.isConstant then fail (constantReport (← own).dialect name)
          else dropVariable name
        | none => pure ()
    pure 0

/-- Puts variables aside until the function ends. -/
def local_ : Action := fun _ args => do
  match (← own).frames with
  | [] => do
    match (← own).dialect with
    | .plain => fail "not in a function"
    | .extended => refuse "can only be used in a function"
  | _ :: _ => do
    args.forM fun a => do
      let (name, value) := nameAndValue a
      if !Reading.isName name then fail (name ++ ": bad variable name")
      let old ← variableOf? name
      change fun p => { p with frames := match p.frames with
        | frame :: r =>
          (if frame.any (·.1 == name) then frame else (name, old) :: frame) :: r
        | [] => [] }
      match value with
      | some v => setVariable name v
      | none => pure ()
    pure 0

/-- Gives the arguments other places. -/
def shift : Action := fun _ args => do
  let n ← match args with
    | [] => pure 1
    | a :: _ => number a
  let p ← own
  if p.args.length < n then
    match p.dialect with
    | .plain => fail "can't shift that many"
    | .extended => pure 1
  else
    change fun p => { p with args := p.args.drop n }
    pure 0

/-- The options of the shell and their letters. -/
def shellOptions : List (String × Char) :=
  [("errexit", 'e'), ("noglob", 'f'), ("ignoreeof", 'I'), ("interactive", 'i'), ("monitor", 'm'),
   ("noexec", 'n'), ("stdin", 's'), ("xtrace", 'x'), ("verbose", 'v'), ("vi", 'V'), ("emacs", 'E'),
   ("noclobber", 'C'), ("allexport", 'a'), ("notify", 'b'), ("nounset", 'u'), ("privileged", 'p'),
   ("nolog", 'L'), ("debug", 'D')]

/-- Switches options on or off. -/
def switch (on : Bool) (letters : List Char) : Running Unit :=
  change fun p => { p with options :=
    let others := p.options.filter fun c => !letters.contains c
    if on then
      (shellOptions.map (·.2)).filter fun c => others.contains c || letters.contains c
    else others }

/-- The lines that tell which options are on. -/
def optionLines (p : Process) : ByteText :=
  "Current option settings\n" ++ Text.concat (shellOptions.map fun o =>
    o.1 ++ String.ofList (List.replicate (16 - o.1.length) ' ') ++
      (if p.options.contains o.2 then "on" else "off") ++ "\n")

/-- The commands that switch the options on and off as they are. -/
def optionCommands (p : Process) : ByteText :=
  Text.concat (shellOptions.map fun o =>
    (if p.options.contains o.2 then "set -o " else "set +o ") ++ o.1 ++ "\n")

/-- Sets options and arguments. -/
def setFrom : List ByteText → Running Nat
  | [] => pure 0
  | a :: r =>
    match a.toList with
    | ['-', '-'] => do
      change fun p => { p with args := r }
      pure 0
    | ['-'] => do
      if !r.isEmpty then change fun p => { p with args := r }
      pure 0
    | sign :: c :: cs =>
      if sign = '-' || sign = '+' then
        let on := sign == '-'
        if c = 'o' && cs.isEmpty then
          match r with
          | name :: rest =>
            match shellOptions.find? (·.1 == name) with
            | some o => do
              switch on [o.2]
              setFrom rest
            | none =>
              if name = "pipefail" then do
                if (← own).dialect = .extended then setFrom rest
                else fail ("Illegal option -o " ++ name)
              else fail ("Illegal option -o " ++ name)
          | [] => do
            print ((if on then optionLines else optionCommands) (← own))
            pure 0
        else
          match (c :: cs).find? fun d => !(shellOptions.map (·.2)).contains d && d != 'o' with
          | some d => fail ("Illegal option " ++ String.ofList [sign, d])
          | none => do
            switch on (c :: cs)
            if (c :: cs).contains 'o' then
              match r with
              | name :: rest =>
                match shellOptions.find? (·.1 == name) with
                | some o => do
                  switch on [o.2]
                  setFrom rest
                | none => do
                  if name = "pipefail" && (← own).dialect = .extended then setFrom rest
                  else fail ("Illegal option -o " ++ name)
              | [] => pure 0
            else setFrom r
      else do
        change fun p => { p with args := a :: r }
        pure 0
    | _ => do
      change fun p => { p with args := a :: r }
      pure 0

/-- Sets options and arguments, or shows the variables. -/
def set_ : Action := fun _ args => do
  if args.isEmpty then
    let p ← own
    print (Text.concat ((sortedVariables p).filterMap fun v =>
      v.2.value.map fun s => v.1 ++ "=" ++ quoted s ++ "\n"))
    pure 0
  else setFrom args

/-! ### Reading lines -/

/-- The characters of a line, and whether a backslash stood before each, the number of characters
that have been read, and whether the line has an end. -/
def lineChars (raw : Bool) : List Char → List (Char × Bool) × Nat × Bool
  | [] => ([], 0, false)
  | '\n' :: _ => ([], 1, true)
  | '\\' :: c :: r =>
    if raw then
      let (cs, n, ended) := lineChars raw (c :: r)
      (('\\', false) :: cs, n + 1, ended)
    else
      let (cs, n, ended) := lineChars raw r
      (if c = '\n' then cs else (c, true) :: cs, n + 2, ended)
  | c :: r =>
    let (cs, n, ended) := lineChars raw r
    if c = '\\' && !raw then (cs, n + 1, ended) else ((c, false) :: cs, n + 1, ended)

/-- Whether a character is white space between fields. -/
def isBlankSeparator (separators : List Char) (c : Char × Bool) : Bool :=
  !c.2 && separators.contains c.1 && (c.1 == ' ' || c.1 == '\t' || c.1 == '\n')

/-- Whether a character separates fields. -/
def isSeparator (separators : List Char) (c : Char × Bool) : Bool :=
  !c.2 && separators.contains c.1

/-- The values of variables from the characters of a line: each gets a field, and the last one the
rest of the line. -/
def lineFields (separators : List Char) : Nat → List (Char × Bool) → List ByteText
  | 0, _ => []
  | 1, cs =>
    let cs := cs.dropWhile (isBlankSeparator separators)
    let cs := (cs.reverse.dropWhile (isBlankSeparator separators)).reverse
    let field := cs.takeWhile fun c => !isSeparator separators c
    let after := (cs.drop field.length).dropWhile (isBlankSeparator separators)
    let kept := if after.length = 1 && after.all (isSeparator separators) then field else cs
    [String.ofList (kept.map (·.1))]
  | n + 2, cs =>
    let cs := cs.dropWhile (isBlankSeparator separators)
    let field := cs.takeWhile fun c => !isSeparator separators c
    let rest := (cs.drop field.length).dropWhile (isBlankSeparator separators)
    let rest := match rest with
      | c :: r => if isSeparator separators c then r else c :: r
      | [] => []
    String.ofList (field.map (·.1)) :: lineFields separators (n + 1) rest

/-- Reads a line into variables. -/
def read : Action := fun _ args => do
  let dialect := (← own).dialect
  let (known, valued) : List Char × List Char := match dialect with
    | .plain => (['r'], ['p'])
    | .extended => (['r', 's', 'e'], ['p', 'd', 'n', 't', 'u', 'a'])
  withOptions known valued args fun os rest => do
    let names := if rest.isEmpty && dialect = .extended then ["REPLY"] else rest
    if names.isEmpty then refuse "arg count"
    else match names.find? fun n => !Reading.isName n with
      | some n => refuse (n ++ ": bad variable name")
      | none => do
        match ← unread 0 with
        | .error _ => do
          names.forM fun n => setVariable n ""
          pure 1
        | .ok text => do
          let (cs, count, ended) := lineChars (hasLetter os 'r') (text.toList.filter (· != '\x00'))
          advance 0 count
          let separators ← Expansion.separators
          let values := lineFields separators names.length cs
          (names.zip values).forM fun (n, v) => setVariable n v
          pure (if ended then 0 else 1)

/-- Takes the next option off the arguments. -/
def getopts : Action := fun _ args => do
  match args with
  | spec :: name :: rest => do
    let p ← own
    let words := if rest.isEmpty then p.args else rest
    let index := (((← valueOf? "OPTIND").bind numberOf?).getD 1)
    let silent := spec.toList.head? == some ':'
    let finish : Running Nat := do
      setVariable name "?"
      setVariable "OPTIND" (toString index)
      pure 1
    match words[index - 1]? with
    | none => finish
    | some word =>
      let cs := word.toList
      if cs.head? != some '-' || cs.length < 2 then finish
      else if word = "--" then do
        setVariable name "?"
        setVariable "OPTIND" (toString (index + 1))
        pure 1
      else do
        let place := if p.optionPlace = 0 then 1 else p.optionPlace
        let letter := (cs[place]?).getD '?'
        let more := place + 1 < cs.length
        let go (index place : Nat) : Running Unit := do
          setVariable "OPTIND" (toString index)
          change fun p => { p with optionPlace := place }
        let known := (spec.toList.dropWhile (· != letter))
        if known.isEmpty || letter = ':' then
          if silent then setVariable "OPTARG" (String.ofList [letter])
          else
            dropVariable "OPTARG"
            printError ("Illegal option -" ++ String.ofList [letter] ++ "\n")
          go (if more then index else index + 1) (if more then place + 1 else 0)
          setVariable name "?"
          pure 0
        else if known[1]? = some ':' then
          if more then
            setVariable "OPTARG" (String.ofList (cs.drop (place + 1)))
            go (index + 1) 0
            setVariable name (String.ofList [letter])
            pure 0
          else match words[index]? with
            | some value => do
              setVariable "OPTARG" value
              go (index + 2) 0
              setVariable name (String.ofList [letter])
              pure 0
            | none => do
              if silent then setVariable "OPTARG" (String.ofList [letter])
              else printError ("No arg for -" ++ String.ofList [letter] ++ " option\n")
              go (index + 1) 0
              setVariable name (if silent then ":" else "?")
              pure 0
        else
          dropVariable "OPTARG"
          go (if more then index else index + 1) (if more then place + 1 else 0)
          setVariable name (String.ofList [letter])
          pure 0
  | _ => refuse "Usage: getopts optstring var [arg...]"

end RamlClient.Shell.Builtin
