import EybondLocal.Library.JsonWriter
import EybondLocal.Library.RunRewrite

/-!
Proxy trace bundles (`support/proxy_capture/trace.py`): the anonymized manifest, the anonymized
trace and the directional hex dumps that one ZIP bundle carries, with their member names.
-/
namespace ProxyTrace
open StripText HexText RunRewrite JsonWriter

abbrev Bytes := List UInt8

def isSerialChar (c : Char) : Bool := c.isUpper || c.isDigit

def byteChar (b : UInt8) : Char := Char.ofNat b.toNat

def isSerialByte (b : UInt8) : Bool := isSerialChar (byteChar b)

def looksLikeSerialToken (token : Text) : Bool :=
  token.any Char.isAlpha && 4 ≤ token.countP Char.isDigit

/-- A whole run that `_SERIAL_TOKEN_RE` matches and `_looks_like_serial_token` accepts. -/
def isSerialToken (run : Text) : Bool :=
  run.head?.any Char.isUpper && 8 ≤ run.length && run.length ≤ 24 && looksLikeSerialToken run

def visibleEnd (length : Nat) : Nat := if length ≤ 8 then 2 else 4

section token
variable {α : Type} (star : α)

def maskSerialToken (token : List α) : List α :=
  if token.length ≤ 4 then List.replicate token.length star
  else
    let visible := visibleEnd token.length
    token.take visible ++ List.replicate (max (token.length - visible - visible) 1) star ++
      token.drop (token.length - visible)

def maskRun (char : α → Char) (run : List α) : List α :=
  if isSerialToken (run.map char) then maskSerialToken star run else run

end token

def maskSerialsInText (value : Text) : Text := rewriteRuns isSerialChar (maskRun '*' id) value

def maskSerialsInBytes (payload : Bytes) : Bytes :=
  rewriteRuns isSerialByte (maskRun 0x2A byteChar) payload

def normalizeHexText (value : Text) : Text :=
  let normalized := squeeze value
  if normalized.length % 2 = 0 ∧ normalized.all isHexDigit = true then normalized else []

def looksLikeHexBlob (value : Text) : Bool := 8 ≤ (normalizeHexText value).length

def maskSerialsInHex (value : Text) : Text :=
  let normalized := normalizeHexText value
  if normalized = [] then maskSerialsInText value
  else
    let payload := fromHex normalized
    if maskSerialsInBytes payload ≠ payload then toHex (maskSerialsInBytes payload)
    else normalized

/-- `_anonymize_value` of a text: as text first, as hex only if that changed nothing. -/
def anonymizeText (value : Text) : Text :=
  if maskSerialsInText value ≠ value then maskSerialsInText value
  else if looksLikeHexBlob value then maskSerialsInHex value
  else value

mutual

def anonymizeValue : Json → Json
  | .str s => .str (anonymizeText s)
  | .array items => .array (anonymizeItems items)
  | .object entries => .object (anonymizeEntries entries)
  | .null => .null
  | .bool b => .bool b
  | .int n => .int n
  | .float spelling => .float spelling

def anonymizeItems : List Json → List Json
  | [] => []
  | item :: rest => anonymizeValue item :: anonymizeItems rest

def anonymizeEntries : List (Text × Json) → List (Text × Json)
  | [] => []
  | (key, item) :: rest => (key, anonymizeValue item) :: anonymizeEntries rest

end

structure Python where
  loads : Text → Option Json
  containerText : Json → Text

abbrev Mapping := List (Text × Json)

def truthy : Json → Bool
  | .null => false
  | .bool b => b
  | .int n => n != 0
  | .float spelling => spelling != "0.0".toList && spelling != "-0.0".toList
  | .str s => s != []
  | .array items => !items.isEmpty
  | .object entries => !entries.isEmpty

def floatText (spelling : Text) : Text :=
  if spelling = "NaN".toList then "nan".toList
  else if spelling = "Infinity".toList then "inf".toList
  else if spelling = "-Infinity".toList then "-inf".toList
  else spelling

def trim (text : Text) : Text := stripBy isSpace text

def get (payload : Mapping) (key : String) : Json := (payload.lookup key.toList).getD .null

variable (python : Python)

def textOf (value : Json) : Text :=
  if truthy value = false then []
  else
    match value with
    | .null => "None".toList
    | .bool true => "True".toList
    | .bool false => "False".toList
    | .int n => intText n
    | .float spelling => floatText spelling
    | .str s => s
    | .array _ | .object _ => python.containerText value

def asMapping : Json → Option Mapping
  | .object entries => some entries
  | _ => none

def readManifestPayload (manifestText : Text) : Option Mapping :=
  (python.loads manifestText).bind asMapping

def traceSection (payload : Option Mapping) : Option Mapping :=
  payload.bind fun entries => asMapping (get entries "trace")

def tracePathFromPayload (payload : Option Mapping) : Option Text :=
  match traceSection payload with
  | none => none
  | some section' =>
    let raw := trim (textOf python (get section' "path"))
    if raw = [] then none else some raw

def marksTraceAnonymized (payload : Option Mapping) : Bool :=
  match traceSection payload with
  | none => false
  | some section' => truthy (get section' "anonymized")

def pathName (raw : Text) : Text :=
  ((raw.splitOn '/').filter fun part => part ≠ [] ∧ part ≠ ['.']).getLast?.getD []

def pathSuffix (name : Text) : Text :=
  let tail := name.rtakeWhile (· ≠ '.')
  if tail ≠ [] ∧ tail.length + 1 < name.length then '.' :: tail else []

def pathStem (name : Text) : Text := name.take (name.length - (pathSuffix name).length)

def joinLines (lines : List Text) : Text :=
  ['\n'].intercalate lines ++ (if lines = [] then [] else ['\n'])

def invalidLine (stripped : Text) : Json :=
  .object
    [("kind".toList, .str "invalid_line".toList), ("raw".toList, .str (maskSerialsInText stripped))]

def anonymizeLine (raw : Text) : Option Text :=
  let stripped := trim raw
  if stripped = [] then none
  else
    some (dumps { sortKeys := true }
      (match python.loads stripped with
        | none => invalidLine stripped
        | some payload => anonymizeValue payload))

def anonymizeProxyTraceText (lines : List Text) : Text :=
  joinLines (lines.filterMap (anonymizeLine python))

inductive Direction where
  | collectorToServer
  | serverToCollector
  deriving DecidableEq, Repr

def Direction.dumpName : Direction → Text
  | collectorToServer => "collector_to_server.raw.hex".toList
  | serverToCollector => "server_to_collector.raw.hex".toList

def directionMap : List (Text × Direction) :=
  [("collector_to_cloud".toList, .collectorToServer),
    ("collector_restore_drain".toList, .collectorToServer),
    ("cloud_to_collector".toList, .serverToCollector)]

def kindHexKeys : List (Text × String) :=
  [("chunk".toList, "chunk_hex"), ("proxy_bridge_exchange".toList, "response_hex"),
    ("proxy_identity_observed".toList, "response_hex"),
    ("restore_drain_chunk".toList, "chunk_hex"), ("tail".toList, "remaining_hex")]

def eventChunk (payload : Mapping) : Option (Direction × Text) :=
  match directionMap.lookup (trim (textOf python (get payload "direction"))),
      kindHexKeys.lookup (trim (textOf python (get payload "kind"))) with
  | some direction, some key =>
    let chunk := normalizeHexText (textOf python (get payload key))
    if chunk = [] then none else some (direction, chunk)
  | _, _ => none

def lineChunk (raw : Text) : Option (Direction × Text) :=
  let stripped := trim raw
  if stripped = [] then none
  else ((python.loads stripped).bind asMapping).bind (eventChunk python)

/-- `build_proxy_trace_directional_hex_dumps`. -/
def directionalHexDump (lines : List Text) (anonymized : Bool) (direction : Direction) : Text :=
  joinLines
    (((lines.filterMap (lineChunk python)).filter fun chunk => chunk.1 = direction).map fun chunk =>
      if anonymized then maskSerialsInHex chunk.2 else chunk.2)

structure Member where
  name : Text
  content : Text
  deriving DecidableEq

structure Files where
  manifestName : Text
  manifestText : Text
  lines : Text → Option (List Text)

variable (files : Files)

def manifestMember (payload : Option Mapping) (anonymized : Bool) : Member where
  name := files.manifestName
  content :=
    if anonymized then
      dumps { indent := some 2 } (anonymizeValue ((payload.map Json.object).getD .null)) ++ ['\n']
    else files.manifestText

def traceMembers (path : Text) (lines : List Text) (anonymized : Bool) : List Member :=
  let name := pathName path
  let dump (direction : Direction) : Member :=
    { name := pathStem name ++ ['.'] ++ direction.dumpName
      content := directionalHexDump python lines anonymized direction }
  let trace : Member :=
    if anonymized then
      { name := pathStem name ++ ".anonymized".toList ++ pathSuffix name
        content := anonymizeProxyTraceText python lines }
    else { name := name, content := lines.flatten }
  [trace, dump .collectorToServer, dump .serverToCollector]

def exportProxyTraceBundle (bundleExists overwrite : Bool) : List Member :=
  if bundleExists ∧ overwrite = false then []
  else
    let payload := readManifestPayload python files.manifestText
    let anonymized := marksTraceAnonymized payload
    manifestMember files payload anonymized ::
      match (tracePathFromPayload python payload).bind fun path =>
          (files.lines path).map fun lines => (path, lines) with
      | none => []
      | some (path, lines) => traceMembers python path lines anonymized

end ProxyTrace
