import TypedTables.Pattern.Escape
import TypedTables.Pattern.Matching

/-!
# Reading patterns

The grammar of patterns: alternatives, items with their repetitions, and groups with the marks
that tell their kinds. Options may come first and hold for the whole, or belong to a group. Each
step takes a token or closes a group, so a pattern of `n` tokens never needs more than a small
multiple of `n` steps.
-/

namespace TypedTables.PatternReader

/-- The number of rounds that no count may reach. -/
def countLimit : Nat := Nat.pow 2 32 - 1

/-- The number that no group may have. -/
def groupLimit : Nat := Nat.pow 2 30 - 1

def isSkipped (character : Char) : Bool :=
  character == ' ' || (0x9 ≤ character.toNat && character.toNat ≤ 0xd)

/-- Skips a comment of a verbose pattern, up to the end of its line. -/
def skipLine : Nat → PatternReader Unit
  | 0 => return ()
  | fuel + 1 => do
      match ← take with
      | none | some (.plain '\n') => return ()
      | some _ => skipLine fuel

def skipComment (place : Nat) : Nat → PatternReader Unit
  | 0 => return ()
  | fuel + 1 => do
      match ← take with
      | none => refuseAt (some place) .unterminatedComment
      | some (.plain ')') => return ()
      | some _ => skipComment place fuel

/-- A written count, which must be below the limit. -/
def countOf? (digits : List Char) : PatternReader (Option Nat) := do
  if digits.isEmpty then return none
  else if countLimit ≤ decimalValue digits then refuseAt none .countTooLarge
  else return some (decimalValue digits)

/-- Bounds whose opening brace has been taken; anything else leaves the brace as it is. -/
def bracedBounds? : PatternReader (Option (Nat × Option Nat)) := do
  let start ← get
  if start.rest.head? = some (.plain '\x7d') then return none
  else
    let low ← takeAll Char.isDigit
    let high ← if ← takeIf ',' then takeAll Char.isDigit else pure low
    if ← takeIf '\x7d' then
      let least ← countOf? low
      let most ← countOf? high
      if most.any (· < least.getD 0) then refuseAt (some start.position) .badBounds
      else return some (least.getD 0, most)
    else
      set start
      return none

def bounds? (token : PatternToken) : PatternReader (Option (Nat × Option Nat)) := do
  match token with
  | .plain '?' => return some (0, some 1)
  | .plain '*' => return some (0, none)
  | .plain '+' => return some (1, none)
  | .plain '\x7b' => bracedBounds?
  | _ => return none

/-- The mark after a repetition tells what it prefers. -/
def preference : PatternReader Preference := do
  if ← takeIf '?' then return .lazy
  else if ← takeIf '+' then return .possessive
  else return .greedy

/-- Repeats the latest item; `place` is where the repetition is written. -/
def repeatLatest (place : Nat) (least : Nat) (most : Option Nat) (items : List Pattern) :
    PatternReader (List Pattern) := do
  match items with
  | [] => refuseAt (some place) .nothingToRepeat
  | .repetition .. :: _ => refuseAt (some place) .multipleRepeat
  | latest :: earlier =>
      if latest.isAnchor then refuseAt (some place) .nothingToRepeat
      else return .repetition (← preference) latest least most :: earlier

/-- Option letters up to a mark that ends them; the first has been taken. -/
def addedOptions : Nat → PatternToken → List PatternOption →
    PatternReader (List PatternOption × PatternToken)
  | 0, token, added => return (added, token)
  | fuel + 1, token, added => do
      match PatternOption.ofToken? token with
      | some .locale => refuse .localeOption 0
      | some option =>
          let added := added ++ [option]
          if option.isAlphabet && added.any (fun other => other.isAlphabet && other != option) then
            refuse .incompatibleOptions 0
          else
            let following ← takeSome .unfinishedOptions
            if [.plain ')', .plain '-', .plain ':'].contains following then
              return (added, following)
            else addedOptions fuel following added
      | none =>
          refuse (if token.isLetter then .unknownOption else .unfinishedOptions) token.size

/-- Option letters after a minus sign, up to the colon. -/
def removedOptions : Nat → PatternToken → PatternComplaint → List PatternOption →
    PatternReader (List PatternOption)
  | 0, _, _, removed => return removed
  | fuel + 1, token, otherwise, removed => do
      match PatternOption.ofToken? token with
      | some option =>
          if option.isAlphabet then refuse .alphabetOff 0
          else
            let following ← takeSome .missingColon
            if following = .plain ':' then return removed ++ [option]
            else removedOptions fuel following .missingColon (removed ++ [option])
      | none => refuse (if token.isLetter then .unknownOption else otherwise) token.size

/-- Options whose first token has been taken: those that a part adds and removes, or none when
they hold for the whole pattern. -/
def optionMarks? (first : PatternToken) :
    PatternReader (Option (List PatternOption × List PatternOption)) := do
  let fuel := (← get).rest.length + 1
  let (added, ending) ←
    if first = .plain '-' then pure ([], first) else addedOptions fuel first []
  if ending = .plain ')' then
    modify fun source => { source with options := source.options ++ added }
    return none
  else if added.contains .unrepeated then refuse .globalOptionOn 1
  else
    let removed ←
      if ending = .plain '-' then
        removedOptions fuel (← takeSome .missingOption) .missingOption []
      else pure []
    if removed.contains .unrepeated then refuse .globalOptionOff 1
    else if added.any removed.contains then refuse .optionOnAndOff 1
    else return some (added, removed)

/-- A word that may name a group: letters, digits and underscores, not starting with a digit. -/
def isName (name : String) : Bool :=
  match name.toList with
  | first :: rest =>
      (first == '_' || (PatternToken.plain first).isLetter) && rest.all Text.isWord
  | [] => false

def groupName (terminator : Char) : PatternReader String := do
  let name ← takeNameTo terminator "group name"
  if isName name then return name else refuse (.badName name) (name.length + 1)

def numberOfName (name : String) : PatternReader Nat := do
  match (← get).names.lookup name with
  | some number => return number
  | none => refuse (.unknownName name) (name.length + 1)

def namedReference (options : List PatternOption) : PatternReader Pattern := do
  let name ← groupName ')'
  let number ← numberOfName name
  if !(← isClosed number) then refuse .openGroup (name.length + 1)
  else
    checkLookbehind number
    return .again number (options.contains .ignoreCase) (PatternOption.alphabet options)

/-- A whole number in decimal digits of any script, with blanks around it, a plus sign before it
and underscores between its digits. -/
def wholeNumber? (text : String) : Option Nat :=
  let trimmed := Text.trimBlanks text.toList
  let unsigned := match trimmed with
    | '+' :: rest => rest
    | _ => trimmed
  let digits := unsigned.filter (· != '_')
  let apart := unsigned.head? != some '_' && unsigned.getLast? != some '_' &&
    !(unsigned.zip unsigned.tail).contains ('_', '_')
  if digits.isEmpty || !apart then none
  else digits.foldlM (fun sum digit =>
    (Text.decimalDigitValue? digit).map fun value => sum * 10 + value) 0

/-- The group that a condition asks for, up to the closing parenthesis. -/
def conditionGroup : PatternReader Nat := do
  let name ← takeNameTo ')' "group name"
  let offset := name.length + 1
  let number ←
    if isName name then numberOfName name
    else
      match wholeNumber? name with
      | none => refuse (.badName name) offset
      | some 0 => refuse .badGroupNumber offset
      | some number =>
          if groupLimit ≤ number then refuse (.unknownGroup number) offset
          else
            let place := (← position) - offset
            modify fun source =>
              if (source.conditions.lookup number).isSome then source
              else { source with conditions := source.conditions ++ [(number, place)] }
            pure number
  checkLookbehind number
  return number

/-- A group must end here; `place` is where it was opened. -/
def closing (place : Nat) : PatternReader Unit := do
  if ← takeIf ')' then return () else refuseAt (some place) .unterminatedGroup

mutual

/-- Alternatives up to the end or a closing parenthesis. -/
def alternatives : Nat → Bool → List PatternOption → PatternReader Pattern
  | 0, _, _ => refuse .unexpectedEnd 0
  | fuel + 1, outermost, options => do
      let first ← items fuel outermost options []
      otherAlternatives fuel outermost options first

def otherAlternatives : Nat → Bool → List PatternOption → Pattern → PatternReader Pattern
  | 0, _, _, _ => refuse .unexpectedEnd 0
  | fuel + 1, outermost, options, first => do
      if ← takeIf '|' then
        let source ← get
        let inner := if outermost then source.options else options
        let second ← items fuel false inner []
        return .choice first (← otherAlternatives fuel outermost inner second)
      else return first

/-- Items one after another, the latest of `taken` at its front. -/
def items : Nat → Bool → List PatternOption → List Pattern → PatternReader Pattern
  | 0, _, _, _ => refuse .unexpectedEnd 0
  | fuel + 1, first, options, taken => do
      let place ← position
      match ← peek with
      | none | some (.plain '|') | some (.plain ')') =>
          return Pattern.sequenceOf taken.reverse
      | some token =>
          let _ ← take
          match token with
          | .escaped character =>
              items fuel first options ((← escape options character) :: taken)
          | .dangling => refuse .danglingBackslash 0
          | .plain character =>
              let verbose := options.contains .verbose
              if verbose && isSkipped character then items fuel first options taken
              else if verbose && character == '#' then
                skipLine ((← get).rest.length + 1)
                items fuel first options taken
              else if character == '(' then group fuel first options taken place
              else
                match ← bounds? token with
                | some (least, most) =>
                    items fuel first options (← repeatLatest place least most taken)
                | none =>
                    let item ← match character with
                      | '[' => characterSet options
                      | '.' => pure (.oneOf (.wildcard (options.contains .lineEnds)))
                      | '^' => pure (.start (options.contains .everyLine))
                      | '$' => pure (.finish (options.contains .everyLine))
                      | _ => pure (single options character.toNat)
                    items fuel first options (item :: taken)

/-- A group whose opening parenthesis has been taken, and the items after it. -/
def group : Nat → Bool → List PatternOption → List Pattern → Nat → PatternReader Pattern
  | 0, _, _, _, _ => refuse .unexpectedEnd 0
  | fuel + 1, first, options, taken, place => do
      if !(← takeIf '?') then
        let item ← captured fuel none options place
        items fuel first options (item :: taken)
      else
        let mark ← takeSome .unexpectedEnd
        match mark with
        | .plain 'P' =>
            if ← takeIf '<' then
              let name ← groupName '>'
              let item ← captured fuel (some name) options place
              items fuel first options (item :: taken)
            else if ← takeIf '=' then
              let item ← namedReference options
              items fuel first options (item :: taken)
            else
              let unknown ← takeSome .unexpectedEnd
              refuse (.unknownExtension ("P" ++ unknown.text)) (unknown.size + 2)
        | .plain ':' =>
            let body ← alternatives fuel false options
            closing place
            items fuel first options (.group none body :: taken)
        | .plain '>' =>
            let body ← alternatives fuel false options
            closing place
            items fuel first options (.atomic body :: taken)
        | .plain '#' =>
            skipComment place ((← get).rest.length + 1)
            items fuel first options taken
        | .plain '=' | .plain '!' =>
            let body ← alternatives fuel false options
            closing place
            items fuel first options (.ahead (mark = .plain '!') body :: taken)
        | .plain '<' =>
            let kind ← takeSome .unexpectedEnd
            if kind = .plain '=' || kind = .plain '!' then
              let item ← lookbehind fuel (kind = .plain '!') options place
              items fuel first options (item :: taken)
            else refuse (.unknownExtension ("<" ++ kind.text)) (kind.size + 2)
        | .plain '(' =>
            let item ← condition fuel options place
            items fuel first options (item :: taken)
        | _ =>
            if mark = .plain '-' || (PatternOption.ofToken? mark).isSome then
              match ← optionMarks? mark with
              | none =>
                  if first && taken.isEmpty then
                    items fuel first (← get).options taken
                  else refuseAt (some place) .lateOptions
              | some (added, removed) =>
                  let body ← alternatives fuel false (PatternOption.adjust options added removed)
                  closing place
                  items fuel first options (.group none body :: taken)
            else refuse (.unknownExtension mark.text) (mark.size + 1)

/-- The body of a group that leaves what it took, and its closing parenthesis. -/
def captured : Nat → Option String → List PatternOption → Nat → PatternReader Pattern
  | 0, _, _, _ => refuse .unexpectedEnd 0
  | fuel + 1, name, options, place => do
      let number ← openGroup name
      let body ← alternatives fuel false options
      closing place
      closeGroup number body
      return .group (some number) body

/-- The body of a lookbehind and its closing parenthesis. -/
def lookbehind : Nat → Bool → List PatternOption → Nat → PatternReader Pattern
  | 0, _, _, _ => refuse .unexpectedEnd 0
  | fuel + 1, negated, options, place => do
      let outer := (← get).groupsBefore
      let limit ← groupCount
      modify fun source => { source with groupsBefore := some (outer.getD limit) }
      let body ← alternatives fuel false options
      modify fun source => { source with groupsBefore := outer }
      closing place
      let (least, most) := body.width (← groupWidths)
      return .behind negated least most body

/-- The condition and the parts of a conditional item, and its closing parenthesis. -/
def condition : Nat → List PatternOption → Nat → PatternReader Pattern
  | 0, _, _ => refuse .unexpectedEnd 0
  | fuel + 1, options, place => do
      let number ← conditionGroup
      let whenTaken ← items fuel false options []
      let untaken ←
        if ← takeIf '|' then
          let part ← items fuel false options []
          if (← peek) = some (.plain '|') then refuse .tooManyBranches 0 else pure part
        else pure .empty
      closing place
      return .conditional number whenTaken untaken

end

/-- A whole pattern: both alphabets cannot hold, nothing may be left, and conditions must ask for
groups that exist. -/
def whole : PatternReader Pattern := do
  if (← get).rest = [.dangling] then refuse .danglingBackslash 0
  else
    let pattern ← alternatives (4 * (← get).rest.length + 8) true []
    let source ← get
    if source.options.contains .ascii && source.options.contains .everyScript then
      refuseAt none .twoAlphabets
    else if !source.rest.isEmpty then refuse .unbalancedParenthesis 0
    else
      match source.conditions.find? fun (number, _) => source.groups.length < number with
      | some (number, place) => refuseAt (some place) (.unknownGroup number)
      | none => return pattern

end TypedTables.PatternReader

namespace TypedTables.Pattern

/-- What forbids a pattern that has been read: a lookbehind must have one width, and a pattern
without repetition must not repeat. -/
def complaint? (unrepeated : Bool) : Pattern → Option PatternComplaint
  | .sequence first second | .choice first second | .conditional _ first second =>
      complaint? unrepeated first <|> complaint? unrepeated second
  | .group _ body | .atomic body | .ahead _ body => complaint? unrepeated body
  | .repetition preference body _ _ =>
      if unrepeated then
        some (.repetitionForbidden (match preference with
          | .greedy => "MAX_REPEAT"
          | .lazy => "MIN_REPEAT"
          | .possessive => "POSSESSIVE_REPEAT"))
      else complaint? unrepeated body
  | .behind _ least most body =>
      if Nat.pow 2 32 - 1 < least then some .lookbehindTooWide
      else if least ≠ most then some .lookbehindVaries
      else complaint? unrepeated body
  | _ => none

def ofText (text : String) : Except PatternFault Pattern := do
  let source : PatternSource :=
    { written := text, rest := PatternToken.ofCharacters text.toList, position := 0
      options := [], groups := [], names := [], groupsBefore := none, conditions := [] }
  let (pattern, final) ← PatternReader.whole.run source
  match pattern.complaint? (final.options.contains .unrepeated) with
  | some complaint => .error ⟨complaint, none, text⟩
  | none => .ok pattern

example : (ofText "^(.)\\1$").toOption.any (·.occursIn "aa") = true := by decide +kernel
example : (ofText "^(foo|bar)$").toOption.any (·.occursIn "bar\n") = true := by decide +kernel

end TypedTables.Pattern
