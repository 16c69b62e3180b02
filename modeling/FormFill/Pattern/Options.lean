import FormFill.Pattern.Syntax

/-!
# Options

The options that change what a pattern means, such as folding of letter case. Each has a letter. A group
may turn options on and off for what it holds.
-/

namespace FormFill.Pattern

/-- The options in force at a place of the pattern. -/
structure Options where
  ignoreCase : Bool := false
  multiline : Bool := false
  dotAll : Bool := false
  verbose : Bool := false
  ascii : Bool := false
  unicode : Bool := false
  template : Bool := false
  deriving DecidableEq, Repr

namespace Options

/-- How letters are compared under the options. -/
def folding (options : Options) : Folding :=
  if options.ignoreCase then (if options.ascii then .ascii else .full) else .exact

/-- Turns on one option by its letter. -/
def turnOn? (options : Options) : Char → Option Options
  | 'i' => some { options with ignoreCase := true }
  | 'm' => some { options with multiline := true }
  | 's' => some { options with dotAll := true }
  | 'x' => some { options with verbose := true }
  | 'a' => some { options with ascii := true }
  | 'u' => some { options with unicode := true }
  | 't' => some { options with template := true }
  | _ => none

/-- The options set on either side. -/
def union (a b : Options) : Options :=
  ⟨a.ignoreCase || b.ignoreCase, a.multiline || b.multiline, a.dotAll || b.dotAll,
    a.verbose || b.verbose, a.ascii || b.ascii, a.unicode || b.unicode, a.template || b.template⟩

/-- Whether some option is set on both sides. -/
def overlap (a b : Options) : Bool :=
  (a.ignoreCase && b.ignoreCase) || (a.multiline && b.multiline) || (a.dotAll && b.dotAll) ||
    (a.verbose && b.verbose) || (a.ascii && b.ascii) || (a.unicode && b.unicode) ||
    (a.template && b.template)

/-- The options inside a group that turns some on and others off. Naming a character repertoire
replaces the one in force. -/
def inGroup (outer added removed : Options) : Options :=
  let outer := if added.ascii || added.unicode then
      { outer with ascii := false, unicode := false } else outer
  let all := outer.union added
  { all with
    ignoreCase := all.ignoreCase && !removed.ignoreCase
    multiline := all.multiline && !removed.multiline
    dotAll := all.dotAll && !removed.dotAll
    verbose := all.verbose && !removed.verbose }

end Options

end FormFill.Pattern
