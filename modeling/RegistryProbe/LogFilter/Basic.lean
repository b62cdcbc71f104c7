import RegistryProbe.LogLine

/-! # Log filters

  A filter decides which log lines are shown. It is a list of rules. A rule applies to the lines of
  some topics or of all, perhaps only to those that have some field, and says up to which level they
  are shown. Of the rules that apply to a line the most specific one decides; a line to which no
  rule applies is not shown.

  - The filter of the flags shows a line according to its level alone: `shows_ofFlags`.
-/

namespace RegistryProbe

/-- What a filter says of some lines. -/
structure LogRule where
  /-- What the names of their topics begin with, if that matters. -/
  topic : Option String := none
  /-- The name of a field that they have, if that matters. -/
  field : Option String := none
  /-- Whether the rule is about the lines within some span. -/
  isOfSpans : Bool := false
  /-- The least urgent level that is shown; `none` if no line is. -/
  limit : Option Level
deriving DecidableEq, Repr

namespace LogRule

/-- Whether a rule applies to a line. The log has no spans, so a rule about them never does. -/
def appliesTo (r : LogRule) (l : LogLine) : Bool :=
  !r.isOfSpans && r.topic.all (fun t => t.toList.isPrefixOf l.topic.name.toList)
    && r.field.all (l.fieldNames.contains ·)

/-- Whether a line is urgent enough for a rule. -/
def reaches (r : LogRule) (l : LogLine) : Bool := r.limit.any (l.level.rank ≤ ·.rank)

/-- How much of a topic's name a rule asks for. A rule that asks for nothing in particular comes
    before one that asks for the empty beginning. -/
def topicWeight (r : LogRule) : Nat := (r.topic.map (·.length + 1)).getD 0

/-- Whether the first name of a field, if any, comes before the second one. -/
def fieldBefore : Option String → Option String → Bool
  | _, none => false
  | none, some _ => true
  | some a, some b => a < b

/-- Whether a rule is more specific than another one: it asks for more of a topic's name, or for as
    much and a field that comes later in the order of names. -/
def outranks (r s : LogRule) : Bool :=
  s.topicWeight < r.topicWeight || (s.topicWeight = r.topicWeight && fieldBefore s.field r.field)

end LogRule

/-- A list of rules, in no particular order of rank. -/
structure LogFilter where
  /-- The rules. -/
  rules : List LogRule
deriving DecidableEq, Repr

/-- The least urgent level that flags ask for. -/
def Level.ofFlags (quiet : Bool) (verbose : Nat) : Level :=
  if quiet then error
  else
    match verbose with
    | 0 => warn
    | 1 => info
    | 2 => debug
    | _ => trace

namespace LogFilter

/-- The rules that apply to a line. -/
def applicable (f : LogFilter) (l : LogLine) : List LogRule := f.rules.filter (·.appliesTo l)

/-- The rule that decides on a line: the most specific one, and the last of several such. -/
def ruleFor? (f : LogFilter) (l : LogLine) : Option LogRule :=
  (f.applicable l).foldl (fun best r => if best.any (·.outranks r) then best else some r) none

/-- Whether a line is shown. -/
def shows (f : LogFilter) (l : LogLine) : Bool := (f.ruleFor? l).any (·.reaches l)

/-- What the names of all topics begin with. -/
def everyTopic : String := "registry_check"

/-- The filter that flags ask for: every topic up to a level. -/
def ofFlags (quiet : Bool) (verbose : Nat) : LogFilter :=
  ⟨[{ topic := some everyTopic, limit := some (Level.ofFlags quiet verbose) }]⟩

theorem ruleFor?_singleton (r : LogRule) (l : LogLine) :
    (LogFilter.mk [r]).ruleFor? l = if r.appliesTo l then some r else none := by
  by_cases h : r.appliesTo l <;> simp [ruleFor?, applicable, h]

theorem shows_ofFlags (quiet : Bool) (verbose : Nat) (l : LogLine) :
    (ofFlags quiet verbose).shows l
      = decide (l.level.rank ≤ (Level.ofFlags quiet verbose).rank) := by
  have all (t : Topic) : everyTopic.toList.isPrefixOf t.name.toList = true := by
    cases t <;> decide +kernel
  simp [shows, ofFlags, ruleFor?_singleton, LogRule.appliesTo, LogRule.reaches, all]

end LogFilter

end RegistryProbe
