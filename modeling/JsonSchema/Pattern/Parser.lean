import JsonSchema.Pattern.Reading

/-! Reading a pattern. A pattern is read token by token, where a backslash and what
follows it are one token. Groups are numbered in the order in which they open. -/
namespace JsonSchema.Pattern

namespace Parser

/-- The last of the terms so far is repeated; a mark and a repetition are not. A group
that only holds a sequence together is repeated as that sequence. -/
def repeated (low : Nat) (high : Option Nat) : List Term → Parse (List Term)
  | [] | .leaf (.mark _) :: _ | .loop .. :: _ => fail
  | term :: earlier => do
    let body := term.plainGroup?.getD [term]
    if ← eat '?' then return .loop .lazy low high body :: earlier
    if ← eat '+' then return .loop .possessive low high body :: earlier
    return .loop .greedy low high body :: earlier

/-- Flags that are switched on, up to what ends them. -/
def addedFlags : Nat → Char → Flags → Parse (Flags × Char)
  | 0, _, _ => fail
  | fuel + 1, c, found => do
    match Flag.ofLetter? c with
    | none => fail
    | some flag =>
      let found := found ++ [flag]
      if found.contains .ascii ∧ found.contains .unicode then fail
      match ← take with
      | some (.plain d) =>
        if d = ')' ∨ d = '-' ∨ d = ':' then return (found, d) else addedFlags fuel d found
      | _ => fail

/-- Flags that are switched off, up to the colon. -/
def removedFlags : Nat → Flags → Parse Flags
  | 0, _ => fail
  | fuel + 1, found => do
    match ← take with
    | some (.plain c) =>
      if c = ':' ∧ found ≠ [] then return found
      match Flag.ofLetter? c with
      | none => fail
      | some flag => if flag.isAlphabet then fail else removedFlags fuel (found ++ [flag])
    | _ => fail

/-- Flags for the whole pattern, or for a group with what is switched on and off. -/
inductive FlagChange where
  | whole
  | group (added removed : Flags)

def flagChange (c : Char) : Parse FlagChange := do
  let fuel := (← get).rest.length + 1
  let (added, stop) ← if c = '-' then pure ([], '-') else addedFlags fuel c []
  if stop = ')' then
    modify fun p => { p with flags := p.flags ++ added }
    return .whole
  if added.contains .template then fail
  let removed ← if stop = '-' then removedFlags fuel [] else pure []
  if removed.contains .template ∨ added.any (removed.contains ·) then fail
  return .group added removed

def openGroup (name : Option String) : Parse Nat := do
  let p ← get
  let number := p.opened + 1
  if name.any fun name => (p.names.lookup name).isSome then fail
  let names := name.toList.map (·, number) ++ p.names
  modify fun p => { p with opened := number, names }
  return number

def closeGroup (number : Nat) (body : List Term) : Parse Unit :=
  modify fun p => { p with closed := (number, Term.widthAll body) :: p.closed }

/-- What an opening parenthesis turns out to begin. -/
inductive Parenthesis where
  | term (term : Term)
  | comment
  | flags

mutual

/-- The alternatives up to the end or a closing parenthesis. Flags of the whole pattern
decide on the layout of those that follow at the outermost level. -/
def items : Nat → Bool → Bool → Bool → Parse (List (List Term))
  | 0, _, _, _ => fail
  | fuel + 1, whole, start, verbose => do
    let first ← sequence fuel start verbose []
    if ← eat '|' then
      let global := (← get).flags
      let verbose := if whole then global.contains .verbose else verbose
      return first :: (← items fuel whole false verbose)
    else return [first]

/-- A sequence of terms, collected last one first. -/
def sequence : Nat → Bool → Bool → List Term → Parse (List Term)
  | 0, _, _, _ => fail
  | fuel + 1, start, verbose, terms => do
    match ← peek with
    | none => return Term.unpack terms.reverse
    | some .broken => fail
    | some (.escaped c) =>
      drop
      sequence fuel start verbose (.leaf (← escape c) :: terms)
    | some (.plain c) =>
      if c = '|' ∨ c = ')' then return Term.unpack terms.reverse
      drop
      if verbose ∧ isLayout c then sequence fuel start verbose terms
      else if verbose ∧ c = '#' then
        skipLine
        sequence fuel start verbose terms
      else if c = '[' then sequence fuel start verbose (.leaf (← set) :: terms)
      else if c = '.' then sequence fuel start verbose (.leaf .any :: terms)
      else if c = '^' then sequence fuel start verbose (.leaf (.mark .caret) :: terms)
      else if c = '$' then sequence fuel start verbose (.leaf (.mark .dollar) :: terms)
      else if c = '(' then
        match ← parenthesis fuel (start && terms.isEmpty) verbose with
        | .term term => sequence fuel start verbose (term :: terms)
        | .comment => sequence fuel start verbose terms
        | .flags =>
          let verbose := (← get).flags.contains .verbose
          sequence fuel start verbose terms
      else if c = '?' ∨ c = '*' ∨ c = '+' ∨ c = '\x7b' then
        match ← limits? c with
        | some (low, high) => sequence fuel start verbose (← repeated low high terms)
        | none => sequence fuel start verbose (.leaf (.point c.toNat false) :: terms)
      else sequence fuel start verbose (.leaf (.point c.toNat false) :: terms)

/-- What stands after an opening parenthesis, up to the closing one. -/
def parenthesis : Nat → Bool → Bool → Parse Parenthesis
  | 0, _, _ => fail
  | fuel + 1, start, verbose => do
    if ← eat '?' then
      match ← take with
      | some (.plain 'P') =>
        if ← eat '<' then return .term (← capture fuel verbose (some (← groupName '>')))
        else if ← eat '=' then return .term (.leaf (← namedReference))
        else fail
      | some (.plain ':') => return .term (.group none [] [] (← enclosed fuel verbose))
      | some (.plain '>') => return .term (.atomic (← enclosed fuel verbose))
      | some (.plain '#') =>
        skipComment
        return .comment
      | some (.plain '=') => return .term (.look false false (← enclosed fuel verbose))
      | some (.plain '!') => return .term (.look false true (← enclosed fuel verbose))
      | some (.plain '<') =>
        match ← take with
        | some (.plain c) =>
          if c ≠ '=' ∧ c ≠ '!' then fail
          let outer := (← get).horizon
          modify fun p => { p with horizon := outer <|> some (p.opened + 1) }
          let found ← items fuel false false verbose
          modify fun p => { p with horizon := outer }
          expect ')'
          return .term (.look true (c = '!') (Term.alternatives found))
        | _ => fail
      | some (.plain '(') =>
        let number ← conditionGroup
        checkHorizon number
        let met ← sequence fuel false verbose []
        let unmet ← if ← eat '|' then sequence fuel false verbose [] else pure []
        expect ')'
        return .term (.cond number met unmet)
      | some (.plain c) =>
        if c ≠ '-' ∧ (Flag.ofLetter? c).isNone then fail
        match ← flagChange c with
        | .whole => if start then return .flags else fail
        | .group added removed =>
          let verbose := (verbose || added.contains .verbose) && !removed.contains .verbose
          return .term (.group none added removed (← enclosed fuel verbose))
      | _ => fail
    else return .term (← capture fuel verbose none)

/-- Alternatives and the closing parenthesis. -/
def enclosed : Nat → Bool → Parse (List Term)
  | 0, _ => fail
  | fuel + 1, verbose => do
    let found ← items fuel false false verbose
    expect ')'
    return Term.alternatives found

def capture : Nat → Bool → Option String → Parse Term
  | 0, _, _ => fail
  | fuel + 1, verbose, name => do
    let number ← openGroup name
    let body ← enclosed fuel verbose
    closeGroup number body
    return .group (some number) [] [] body

end

end Parser

/-- The terms that a pattern text is made of, with the flags of the whole. Each token
takes a few steps at most. -/
def termsOf (text : String) : Except Flaw (Flags × List Term) := do
  let tokens := tokens text.toList
  let start : Progress := ⟨tokens, [], 0, [], [], none, []⟩
  let (found, p) ← (Parser.items (5 * tokens.length + 5) true true false).run start
  if p.flags.contains .ascii ∧ p.flags.contains .unicode then throw .incompatibleFlags
  if p.rest ≠ [] ∨ p.conditions.any (p.opened < ·) then throw .malformed
  return (p.flags, Term.alternatives found)

end JsonSchema.Pattern
