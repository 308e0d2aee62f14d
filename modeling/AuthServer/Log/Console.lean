import AuthServer.Config
import AuthServer.Json.Writer
import AuthServer.Log

/-!
The log on the console: one line for each event, in a form for people or in one for machines. Both
forms show the level, the part that speaks, the message and every field.
-/

namespace AuthServer

namespace LogValue

def text : LogValue → String
  | .number value => toString value
  | .plain text => text
  | .quoted text => Text.quote text

def json : LogValue → String
  | .number value => toString value
  | .plain text | .quoted text => Json.stringText text

end LogValue

namespace LogSpan

def facts (span : LogSpan) : List (String × String) := [
  ("trace_id", span.traceId), ("method", span.method), ("path", span.path)]

def text (span : LogSpan) : String :=
  let facts := span.facts.map fun (name, value) => name ++ "=" ++ value
  "request\x7b" ++ " ".intercalate facts ++ "\x7d: "

def json (span : LogSpan) : String :=
  Json.objectText ((span.facts ++ [("name", "request")]).map fun (name, value) =>
    (name, Json.stringText value))

end LogSpan

namespace LogEvent

def prettyLine (event : LogEvent) : String :=
  let fields := event.fields.map fun (name, value) => " " ++ name ++ "=" ++ value.text
  let span := event.span.elim "" LogSpan.text
  s!"{event.level.text} {span}{event.source.name}: {event.message}" ++ String.join fields

def jsonLine (event : LogEvent) : String :=
  let fields := ("message", Json.stringText event.message) ::
    event.fields.map fun (name, value) => (name, value.json)
  Json.objectText ([
    ("level", Json.stringText event.level.text),
    ("fields", Json.objectText fields),
    ("target", Json.stringText event.source.name)] ++
    event.span.elim [] fun span => [("span", span.json)])

end LogEvent

def LogFormat.line : LogFormat → LogEvent → String
  | .json => LogEvent.jsonLine
  | .pretty => LogEvent.prettyLine

end AuthServer
