import TypedTables.Text.Quoted

/-!
# Faults of patterns

Why the written form of a pattern cannot be read, and where. A place counts the characters before
it; a pattern of several lines is also told the line and the column.
-/

namespace TypedTables

/-- What is wrong with the written form of a pattern. -/
inductive PatternComplaint where
  | danglingBackslash
  | incompleteEscape (escape : String)
  | badEscape (escape : String)
  | octalTooLarge (escape : String)
  | missingBrace
  | unknownCharacter (name : String)
  | missingName (what : String)
  | unterminatedName (terminator : String)
  | badName (name : String)
  | unknownName (name : String)
  | repeatedName (name : String) (group earlier : Nat)
  | openGroup
  | groupOfSameLookbehind
  | unknownGroup (number : Nat)
  | badGroupNumber
  | unterminatedSet
  | badRange (low high : String)
  | badBounds
  | nothingToRepeat
  | multipleRepeat
  | unexpectedEnd
  | unknownExtension (mark : String)
  | unterminatedComment
  | unterminatedGroup
  | tooManyBranches
  | lateOptions
  | localeOption
  | incompatibleOptions
  | unfinishedOptions
  | unknownOption
  | globalOptionOn
  | globalOptionOff
  | missingOption
  | alphabetOff
  | missingColon
  | optionOnAndOff
  | unbalancedParenthesis
  | lookbehindTooWide
  | lookbehindVaries
  | repetitionForbidden (name : String)
  /-- The count of a repetition is beyond every limit. -/
  | countTooLarge
  /-- Both alphabets are asked for. -/
  | twoAlphabets
  deriving DecidableEq, Repr

structure PatternFault where
  complaint : PatternComplaint
  place : Option Nat
  pattern : String
  deriving DecidableEq, Repr

namespace PatternComplaint

def message : PatternComplaint → String
  | danglingBackslash => "bad escape (end of pattern)"
  | incompleteEscape escape => "incomplete escape " ++ escape
  | badEscape escape => "bad escape " ++ escape
  | octalTooLarge escape => s!"octal escape value {escape} outside of range 0-0o377"
  | missingBrace => "missing \x7b"
  | unknownCharacter name => "undefined character name " ++ Text.quoted name
  | missingName what => "missing " ++ what
  | unterminatedName terminator => s!"missing {terminator}, unterminated name"
  | badName name => "bad character in group name " ++ Text.quoted name
  | unknownName name => "unknown group name " ++ Text.quoted name
  | repeatedName name group earlier =>
      "redefinition of group name " ++ Text.quoted name ++
        s!" as group {group}; was group {earlier}"
  | openGroup => "cannot refer to an open group"
  | groupOfSameLookbehind =>
      "cannot refer to group defined in the same lookbehind subpattern"
  | unknownGroup number => s!"invalid group reference {number}"
  | badGroupNumber => "bad group number"
  | unterminatedSet => "unterminated character set"
  | badRange low high => s!"bad character range {low}-{high}"
  | badBounds => "min repeat greater than max repeat"
  | nothingToRepeat => "nothing to repeat"
  | multipleRepeat => "multiple repeat"
  | unexpectedEnd => "unexpected end of pattern"
  | unknownExtension mark => "unknown extension ?" ++ mark
  | unterminatedComment => "missing ), unterminated comment"
  | unterminatedGroup => "missing ), unterminated subpattern"
  | tooManyBranches => "conditional backref with more than two branches"
  | lateOptions => "global flags not at the start of the expression"
  | localeOption => "bad inline flags: cannot use \x27L\x27 flag with a str pattern"
  | incompatibleOptions =>
      "bad inline flags: flags \x27a\x27, \x27u\x27 and \x27L\x27 are incompatible"
  | unfinishedOptions => "missing -, : or )"
  | unknownOption => "unknown flag"
  | globalOptionOn => "bad inline flags: cannot turn on global flag"
  | globalOptionOff => "bad inline flags: cannot turn off global flag"
  | missingOption => "missing flag"
  | alphabetOff =>
      "bad inline flags: cannot turn off flags \x27a\x27, \x27u\x27 and \x27L\x27"
  | missingColon => "missing :"
  | optionOnAndOff => "bad inline flags: flag turned on and off"
  | unbalancedParenthesis => "unbalanced parenthesis"
  | lookbehindTooWide => "looks too much behind"
  | lookbehindVaries => "look-behind requires fixed-width pattern"
  | repetitionForbidden name => "internal: unsupported template operator " ++ name
  | countTooLarge => "the repetition number is too large"
  | twoAlphabets => "ASCII and UNICODE flags are incompatible"

end PatternComplaint

namespace PatternFault

def message (fault : PatternFault) : String :=
  match fault.place with
  | none => fault.complaint.message
  | some place =>
      let characters := fault.pattern.toList
      let before := characters.take place
      let line := before.count '\n' + 1
      let column := (before.reverse.takeWhile (· != '\n')).length + 1
      fault.complaint.message ++ s!" at position {place}" ++
        (if characters.contains '\n' then s!" (line {line}, column {column})" else "")

end PatternFault
end TypedTables
