import AuthServer.Log
import AuthServer.Text.Blank
import AuthServer.Text.Numeral

/-!
Which events are written down: a filter gives a threshold to all parts of the program or to those
whose names start in some way. Of the directives about a part the one with the longest name decides,
and of two with the same name the later one; a part that no directive is about is silent.
-/

namespace AuthServer

/-- How many of the five levels are shown, the gravest first. -/
abbrev LogThreshold := Nat

/-- The place of a level among the five. The last two are for debugging. -/
def LogLevel.rank : LogLevel → Nat
  | .error => 1
  | .warn => 2
  | .info => 3

namespace LogThreshold

def all : LogThreshold := 5

def words : List String := ["off", "error", "warn", "info", "debug", "trace"]

/-- Read a threshold: a word in letters of either case, or a number up to five. -/
def ofText? (text : String) : Option LogThreshold :=
  match (Text.readNumeral text).filter (· ≤ all) with
  | some threshold => some threshold
  | none => words.idxOf? (Text.lowerAscii text)

end LogThreshold

structure LogDirective where
  /-- How the names of the parts start; without it the directive is about all parts. -/
  start : Option String
  threshold : LogThreshold
deriving DecidableEq, Repr

namespace LogDirective

def isAbout (directive : LogDirective) (source : LogSource) : Bool :=
  directive.start.elim true fun start => start.toList.isPrefixOf source.name.toList

def specificity (directive : LogDirective) : Nat :=
  directive.start.elim 0 fun start => start.length + 1

def canStart (char : Char) : Bool :=
  char.isAlphanum || '\x7f' < char || ['-', ':', '_'].contains char

/-- Read a directive: a threshold for all parts, a name, or both with a mark between them. Without a
threshold the named parts are shown at every level. The blanks around a directive do not count when
the place of the mark is found. -/
def ofText? (text : String) : Option LogDirective :=
  let chars := text.toList
  let trimmed := Text.trimChars chars
  if !(trimmed.head?.any canStart) then none
  else
    match Text.splitOnce '=' trimmed with
    | none =>
        match LogThreshold.ofText? text with
        | some threshold => some ⟨none, threshold⟩
        | none => some ⟨some text, .all⟩
    | some (name, _) =>
        let start := some (String.ofList (chars.take name.length))
        let threshold := String.ofList (chars.drop (name.length + 1))
        if threshold.isEmpty then some ⟨start, .all⟩
        else (LogThreshold.ofText? threshold).map (⟨start, ·⟩)

example : ofText? "Warn" = some ⟨none, 2⟩ := by decide +kernel
example : ofText? "server=off" = some ⟨some "server", 0⟩ := by decide +kernel
example : ofText? "server" = some ⟨some "server", 5⟩ := by decide +kernel
example : ofText? "server=loud" = none := by decide +kernel

end LogDirective

structure LogFilter where
  directives : List LogDirective
deriving DecidableEq, Repr

namespace LogFilter

def standard : LogFilter := ⟨[⟨none, LogLevel.info.rank⟩]⟩

def errorsOnly : LogFilter := ⟨[⟨none, LogLevel.error.rank⟩]⟩

/-- The filter of a setting, whose directives stand between commas. A setting that cannot be read
counts as unset. -/
def ofSetting (value : Option String) : LogFilter :=
  match value with
  | none => standard
  | some "" => errorsOnly
  | some text =>
      let pieces := (Text.splitAll ',' text.toList).map String.ofList
      (pieces.mapM LogDirective.ofText?).elim standard .mk

def thresholdFor (filter : LogFilter) (source : LogSource) : LogThreshold :=
  let decide (best : Option LogDirective) (directive : LogDirective) : Option LogDirective :=
    if directive.isAbout source ∧ best.all (·.specificity ≤ directive.specificity) then
      some directive
    else best
  (filter.directives.foldl decide none).elim 0 LogDirective.threshold

def shows (filter : LogFilter) (event : LogEvent) : Bool :=
  event.level.rank ≤ filter.thresholdFor event.source

end LogFilter

end AuthServer
