/-
# Messages shown to users

The texts, embeds and buttons of the player and of the queue list. Untrusted
text is flattened, stripped of control characters, escaped and cut at a length
in UTF-16 units before it is put between Markdown.

Parsing a URL is left to the `url` crate; the caller passes its parser, which
returns the parts that are checked here and the serialized form.
-/

import Raydio.Playback.Queue

namespace Raydio.Views

open Raydio.Foundation Raydio.Playback

/-- The parts of a parsed URL, with its serialization. -/
structure Url where
  scheme : String
  host : Option String
  username : String
  password : Option String
  serialized : String
  deriving DecidableEq, Repr

/-- An embed field; all fields are inline. -/
structure EmbedField where
  name : String
  value : String
  deriving DecidableEq, Repr

/-- An embed, with the parts that are ever set. -/
structure Embed where
  color : ℕ
  author : String
  title : String
  description : String
  fields : List EmbedField
  footer : String
  thumbnail : Option String
  url : Option String
  deriving DecidableEq, Repr

/-- A button. -/
structure Button where
  customId : String
  label : String
  emoji : Option String
  style : ℕ
  disabled : Bool
  deriving DecidableEq, Repr

/-- A message: its text, its embeds and its rows of buttons. -/
structure View where
  content : Option String
  embeds : List Embed
  components : List (List Button)
  deriving DecidableEq, Repr

/-- The characters that fit before the ellipsis, after `count` units. -/
def fitting (max : ℕ) : ℕ → List Char → List Char
  | _, [] => []
  | count, c :: rest =>
      if count + Text.lenUtf16 c ≥ max then []
      else c :: fitting max (count + Text.lenUtf16 c) rest

/-- `truncate` on characters. -/
def truncateChars (text : List Char) (max : ℕ) : List Char :=
  if Text.utf16Count text ≤ max then text
  else fitting max 0 text ++ if max > 0 then ['…'] else []

/-- Cut a text at `max` UTF-16 units, with an ellipsis if something is cut. -/
def truncate (text : String) (max : ℕ) : String :=
  String.ofList (truncateChars text.toList max)

/-- The characters with a meaning in Markdown. -/
def markdown : List Char := "\\*_~`|>[]()#".toList

/-- Escape Markdown and drop control characters. -/
def escape (text : List Char) : List Char :=
  text.flatMap fun c =>
    (if markdown.contains c then ['\\'] else []) ++ if Text.isControl c then [] else [c]

/-- Untrusted text, fit to stand between Markdown. -/
def safe (text : String) (max : ℕ) : String :=
  String.ofList (truncateChars (escape (Text.flatten text.toList)) max)

/-- A message that is only a text. -/
def View.text (text : String) : View := ⟨some (truncate text 2000), [], []⟩

/-- The label of the loop button. -/
def label (mode : LoopMode) : String := if mode = .off then "Loop: OFF" else "Loop: ON"

/-- The name of a loop mode. -/
def modeName : LoopMode → String
  | .off => "off"
  | .track => "track"
  | .queue => "queue"

/-- `urls::valid_identifier`. -/
def validIdentifier (value : String) : Bool :=
  !value.isEmpty && decide (value.utf8ByteSize ≤ 128) &&
    value.toList.all fun c => c.isAlphanum || c == '-' || c == '_'

/-- A button of the player. -/
def button (session action label emoji : String) (style : ℕ) (disabled : Bool) : Button :=
  ⟨"raydio:player:" ++ session ++ ":" ++ action, label, some emoji, style, disabled⟩

/-- The bar with its marker and the two times under it. -/
def progressText (track : Track) (position : ℕ) : String :=
  if track.stream then "🔴 **LIVE**"
  else if track.durationMs = 0 then
    "`" ++ formatDuration position false ++ " elapsed • duration unknown`"
  else
    let marker := min (min position track.durationMs * 30 / track.durationMs) 29
    let bar := (List.range 30).map fun index => if index = marker then '●' else '━'
    String.ofList bar ++ "\n`" ++ formatDuration (min position track.durationMs) false ++
      " / " ++ formatDuration track.durationMs false ++ "`"

/-- The link of the title, for the hosts the player links to. -/
def titleUrl (parseUrl : String → Option Url) (track : Track) : Option String :=
  match track.uri.bind parseUrl with
  | none => none
  | some url =>
      if url.scheme = "https" &&
          ["youtube.com", "www.youtube.com", "music.youtube.com", "youtu.be"].any
            (fun host => url.host == some host) &&
          url.username.isEmpty && url.password.isNone then some url.serialized
      else none

/-- The player message. -/
def player (parseUrl : String → Option Url) (queue : Queue) (session : String) (paused : Bool)
    (volume position : ℕ) : View :=
  match queue.current with
  | none => View.text "Nothing is playing."
  | some track =>
      let embed : Embed := {
        color := 0x8b5cf6
        author := "Raydio • Now Playing"
        title := safe track.title 200
        description := progressText track position
        fields := [
          ⟨"Channel", safe track.author 100⟩,
          ⟨"Requested by", safe track.requestedBy 64⟩,
          ⟨"Up next", (queue.upcoming.head?.map fun t => safe t.title 200).getD "Nothing queued"⟩,
          ⟨"Volume", s!"{volume}%"⟩]
        footer := (if paused then "Paused" else "Playing") ++ " • " ++ label queue.loopMode ++
          " • refreshes every second"
        thumbnail := if validIdentifier track.identifier then
            some ("https://i.ytimg.com/vi/" ++ track.identifier ++ "/hqdefault.jpg") else none
        url := titleUrl parseUrl track }
      { content := none
        embeds := [embed]
        components := [
          [button session "previous" "Previous" "⏮️" 2 queue.history.isEmpty,
            button session "pause" (if paused then "Resume" else "Pause")
              (if paused then "▶️" else "⏸️") 1 false,
            button session "skip" "Next" "⏭️" 2 queue.upcoming.isEmpty,
            button session "stop" "Stop" "⏹️" 4 false],
          [button session "queue" "Queue" "📋" 2 false,
            button session "loop" (label queue.loopMode) "🔁" 2 false,
            button session "leave" "Leave" "👋" 4 false]] }

/-- One line of the queue list. -/
def compact (track : Track) : String :=
  "**" ++ safe track.title 60 ++ "** — " ++ safe track.author 30 ++ " [" ++
    (if !track.stream && track.durationMs = 0 then "Unknown"
      else formatDuration track.durationMs track.stream) ++
    "] • " ++ safe track.requestedBy 24

/-- Where the current track is, as the queue list says it. -/
def elapsedText (current : Track) (position : ℕ) : String :=
  if current.stream then "LIVE"
  else if current.durationMs = 0 then
    formatDuration position false ++ " elapsed • duration unknown"
  else formatDuration (min position current.durationMs) false ++ " elapsed • " ++
    formatDuration (current.durationMs - position) false ++ " remaining"

/-- The remaining time, the live tracks and the tracks of unknown duration, after
one more upcoming track. -/
def remaining (sum : ℕ × ℕ × ℕ) (track : Track) : ℕ × ℕ × ℕ :=
  let (time, streams, unknown) := sum
  if track.stream then (time, streams + 1, unknown)
  else if track.durationMs = 0 then (time, streams, unknown + 1)
  else (saturatingAdd time track.durationMs, streams, unknown)

/-- The last but one line of the queue list. -/
def remainingText (current : Track) (upcoming : List Track) (position : ℕ) : String :=
  let start := (if current.stream then 0 else current.durationMs - position,
    if current.stream then 1 else 0, if !current.stream && current.durationMs = 0 then 1 else 0)
  let (time, streams, unknown) := upcoming.foldl remaining start
  "Finite queue time remaining: " ++ formatDuration time false ++
    (if unknown = 0 then "" else s!" • {unknown} unknown duration not included") ++
    if streams > 0 then s!" • {streams} live not included" else ""

/-- The queue list, one page of it. -/
def queue (queue : Queue) (session : String) (requestedPage : ℕ) (paused : Bool)
    (volume position : ℕ) : View :=
  match queue.current with
  | none => View.text "The queue is empty."
  | some current =>
      let pages := max ((queue.upcoming.length + 9) / 10) 1
      let page := min requestedPage (pages - 1)
      let entries := (queue.upcoming.zipIdx.drop (page * 10)).take 10
      let list := if queue.upcoming.isEmpty then ["Upcoming: empty"]
        else s!"Upcoming • Page {page + 1}/{pages}:" ::
          entries.map fun (track, index) => s!"{index + 1}. " ++ compact track
      let lines := ["Now playing: " ++ compact current,
        "Progress: " ++ elapsedText current position] ++ list ++
        [remainingText current queue.upcoming position,
          "Status: " ++ (if paused then "paused" else "playing") ++ " • Loop: " ++
            modeName queue.loopMode ++ s!" • Volume: {volume}%"]
      let id (page : ℕ) := "raydio:queue:" ++ session ++ s!":{page}"
      { content := some (truncate ("\n".intercalate lines) 2000)
        embeds := []
        components := if pages > 1 then
            [[⟨id (page - 1), "Previous", none, 2, page == 0⟩,
              ⟨id (min (page + 1) (pages - 1)), "Next", none, 2, page + 1 == pages⟩]]
          else [] }

/-! ## Suggestions -/

/-- A choice of the list of suggestions. -/
structure Choice where
  name : String
  value : String
  deriving DecidableEq, Repr

/-- Untrusted text for a label, which is shown as it is. -/
def plain (text : String) : String :=
  String.ofList ((Text.flatten text.toList).filter fun c => !Text.isControl c)

/-- The choice for a track, unless its address is too long for one. -/
def choice (track : Track) : Option Choice :=
  let value := "https://www.youtube.com/watch?v=" ++ track.identifier
  if Text.utf16Count value.toList > 100 then none
  else
    let title := if (plain track.title).isEmpty then "Untitled YouTube track"
      else plain track.title
    let name := if (plain track.author).isEmpty then title
      else title ++ " — " ++ plain track.author
    some ⟨truncate name 100, value⟩

/-- The tracks with a valid identifier that was not seen before. -/
def unseen : List String → List Track → List Track
  | _, [] => []
  | seen, track :: rest =>
      if !validIdentifier track.identifier || seen.contains track.identifier then unseen seen rest
      else track :: unseen (track.identifier :: seen) rest

/-- `search_choices`. -/
def searchChoices (tracks : List Track) : List Choice :=
  ((unseen [] tracks).filterMap choice).take 10

end Raydio.Views
