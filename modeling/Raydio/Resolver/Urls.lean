/-
# Links and searches

What a user asks for is a search, or a link to a video or a playlist of a few hosts.
A video link is passed on as the `url` crate serializes it, a playlist link is written
anew with the identifier of its list. Parsing a URL is left to the crate, which is a
parameter here: a type of URLs with the accessors that are used, and the laws that its
documentation promises of them. What is classified as a link is safe to pass on, and is
classified in the same way when it comes back.
-/

import Raydio.Foundation.Checked
import Raydio.Foundation.Text
import Raydio.Resolver.Resolution
import Raydio.Views.View

namespace Raydio.Resolver

open Raydio.Foundation Raydio.Views

/-- The parts of the `url` crate that are used. -/
structure UrlCrate where
  Url : Type
  parse : String → Option Url
  scheme : Url → String
  hostStr : Url → Option String
  username : Url → String
  password : Url → Option String
  /-- The port, unless it is the default one of the scheme. -/
  port : Url → Option ℕ
  path : Url → String
  pathSegments : Url → Option (List String)
  /-- The decoded pairs of the query. -/
  queryPairs : Url → List (String × String)
  /-- `query_pairs_mut().append_pair`. -/
  appendPair : Url → String → String → Url
  /-- The serialization. -/
  text : Url → String

/-- What a user asks for. -/
inductive Input
  | search (query : String)
  | video (url : String)
  | playlist (url : String)
  | unsupported
  deriving DecidableEq, Repr

/-- `str::trim`. -/
def trim (text : String) : String := String.ofList (Text.trim text.toList)

/-- The hosts of supported links. -/
def hosts : List String :=
  ["youtube.com", "www.youtube.com", "m.youtube.com", "music.youtube.com", "youtu.be"]

/-- The address that playlist links start with. -/
def playlistPage : String := "https://www.youtube.com/playlist"

namespace UrlCrate

/-- The first value of a parameter of the query. -/
def parameter (self : UrlCrate) (url : self.Url) (key : String) : Option String :=
  ((self.queryPairs url).find? fun pair => pair.1 = key).map Prod.snd

/-- The URL is one of a supported host, by a plain address. -/
def supported (self : UrlCrate) (url : self.Url) : Bool :=
  (self.scheme url == "https" || self.scheme url == "http") &&
    hosts.any (fun host => self.hostStr url == some host) &&
    (self.username url).isEmpty && (self.password url).isNone && (self.port url).isNone

/-- The URL names a video in the way of its host. -/
def namesVideo (self : UrlCrate) (url : self.Url) : Bool :=
  let segments := (self.pathSegments url).getD []
  if self.hostStr url = some "youtu.be" then segments.head?.any validIdentifier
  else if self.path url = "/watch" then (self.parameter url "v").any validIdentifier
  else (segments.head?.any fun kind => ["shorts", "live", "embed"].contains kind) &&
    (segments[1]?).any validIdentifier

/-- The address of a playlist. -/
def canonical (self : UrlCrate) (list : String) : Checked String :=
  match self.parse playlistPage with
  | some url => .ok (self.text (self.appendPair url "list" list))
  | none => .error (.expected "constant URL")

/-- Tell searches and links apart. -/
def classify (self : UrlCrate) (input : String) : Checked Input :=
  let input := trim input
  match self.parse input with
  | none => .ok (.search input)
  | some url =>
      if !self.supported url then .ok .unsupported
      else match (self.parameter url "list").filter validIdentifier with
      | some list => (self.canonical list).map .playlist
      | none => .ok (if self.namesVideo url then .video (self.text url) else .unsupported)

/-- What is passed to the music node: an identifier, another one to fall back to, and
whether it is a playlist. -/
def identifiers (self : UrlCrate) (input : String) :
    Checked (Except Failure (String × Option String × Bool)) :=
  (self.classify input).map fun
    | .search query =>
        if query.isEmpty then .error .noMatch
        else .ok ("ytmsearch:" ++ query, some ("ytsearch:" ++ query), false)
    | .video url => .ok (url, none, false)
    | .playlist url => .ok (url, none, true)
    | .unsupported => .error .unsupported

/-- What the crate promises: a serialized URL parses as that URL; it has no white space
around it, being percent-encoded; and adding an identifier as the list of the playlist page
changes its query and nothing else. -/
structure Lawful (crate : UrlCrate) : Prop where
  parse_text : ∀ url, crate.parse (crate.text url) = some url
  trim_text : ∀ url, crate.scheme url = "https" ∨ crate.scheme url = "http" →
    trim (crate.text url) = crate.text url
  page : ∃ url, crate.parse playlistPage = some url ∧ ∀ list, validIdentifier list = true →
    crate.text (crate.appendPair url "list" list) = playlistPage ++ "?list=" ++ list ∧
    crate.scheme (crate.appendPair url "list" list) = "https" ∧
    crate.hostStr (crate.appendPair url "list" list) = some "www.youtube.com" ∧
    crate.username (crate.appendPair url "list" list) = "" ∧
    crate.password (crate.appendPair url "list" list) = none ∧
    crate.port (crate.appendPair url "list" list) = none ∧
    crate.queryPairs (crate.appendPair url "list" list) = [("list", list)]

/-- An address that may be passed on: http or https, one of the hosts, without
credentials and without a port of its own. -/
structure Permitted (crate : UrlCrate) (url : crate.Url) : Prop where
  scheme : crate.scheme url = "https" ∨ crate.scheme url = "http"
  host : ∃ host ∈ hosts, crate.hostStr url = some host
  username : crate.username url = ""
  password : crate.password url = none
  port : crate.port url = none

/-- The form in which the hosts name a video. -/
inductive NamesVideo (crate : UrlCrate) (url : crate.Url) : Prop
  | short (host : crate.hostStr url = some "youtu.be") (id : String) (rest : List String)
      (segments : crate.pathSegments url = some (id :: rest)) (valid : validIdentifier id = true)
  | watch (host : crate.hostStr url ≠ some "youtu.be") (path : crate.path url = "/watch")
      (id : String) (parameter : crate.parameter url "v" = some id)
      (valid : validIdentifier id = true)
  | other (host : crate.hostStr url ≠ some "youtu.be") (path : crate.path url ≠ "/watch")
      (kind id : String) (rest : List String)
      (segments : crate.pathSegments url = some (kind :: id :: rest))
      (known : kind = "shorts" ∨ kind = "live" ∨ kind = "embed")
      (valid : validIdentifier id = true)

variable {crate : UrlCrate} {url : crate.Url}

theorem supported_iff : crate.supported url = true ↔ crate.Permitted url := by
  constructor
  · intro h
    simp only [supported, Bool.and_eq_true, Bool.or_eq_true, beq_iff_eq, List.any_eq_true,
      String.isEmpty_iff, Option.isNone_iff_eq_none] at h
    obtain ⟨⟨⟨⟨hscheme, hhost⟩, husername⟩, hpassword⟩, hport⟩ := h
    exact ⟨hscheme, hhost, husername, hpassword, hport⟩
  · rintro ⟨hscheme, hhost, husername, hpassword, hport⟩
    simp only [supported, Bool.and_eq_true, Bool.or_eq_true, beq_iff_eq, List.any_eq_true,
      String.isEmpty_iff, Option.isNone_iff_eq_none]
    exact ⟨⟨⟨⟨hscheme, hhost⟩, husername⟩, hpassword⟩, hport⟩

theorem namesVideo_iff : crate.namesVideo url = true ↔ crate.NamesVideo url := by
  unfold namesVideo
  dsimp only
  by_cases hhost : crate.hostStr url = some "youtu.be"
  · rw [if_pos hhost]
    constructor
    · intro h
      cases hsegments : crate.pathSegments url with
      | none => simp [hsegments] at h
      | some segments =>
          cases segments with
          | nil => simp [hsegments] at h
          | cons id rest =>
              have hvalid : validIdentifier id = true := by simpa [hsegments] using h
              exact .short hhost id rest hsegments hvalid
    · rintro (⟨-, id, rest, hsegments, hvalid⟩ | ⟨hother, -⟩ | ⟨hother, -⟩)
      · simpa [hsegments] using hvalid
      · exact absurd hhost hother
      · exact absurd hhost hother
  · rw [if_neg hhost]
    by_cases hpath : crate.path url = "/watch"
    · rw [if_pos hpath]
      constructor
      · intro h
        cases hid : crate.parameter url "v" with
        | none => simp [hid] at h
        | some id => exact .watch hhost hpath id hid (by simpa [hid] using h)
      · rintro (⟨hshort, -⟩ | ⟨-, -, id, hid, hvalid⟩ | ⟨-, hother, -⟩)
        · exact absurd hshort hhost
        · simpa [hid] using hvalid
        · exact absurd hpath hother
    · rw [if_neg hpath]
      constructor
      · intro h
        cases hsegments : crate.pathSegments url with
        | none => simp [hsegments] at h
        | some segments =>
            rcases segments with _ | ⟨kind, _ | ⟨id, rest⟩⟩
            · simp [hsegments] at h
            · simp [hsegments] at h
            · simp only [hsegments, Option.getD_some, List.head?_cons, Option.any_some,
                List.getElem?_cons_succ, List.getElem?_cons_zero, Bool.and_eq_true] at h
              obtain ⟨hkind, hvalid⟩ := h
              exact .other hhost hpath kind id rest hsegments (by simpa using hkind) hvalid
      · rintro (⟨hshort, -⟩ | ⟨-, hwatch, -⟩ | ⟨-, -, kind, id, rest, hsegments, hkind, hvalid⟩)
        · exact absurd hshort hhost
        · exact absurd hwatch hpath
        · simp [hsegments, hkind, hvalid]

/-! ## How links are classified -/

/-- Where the classification of a link comes from. -/
theorem classify_link {input : String} {link : Input} (h : crate.classify input = .ok link)
    (hsearch : ∀ query, link ≠ .search query) (hknown : link ≠ .unsupported) :
    ∃ url, crate.parse (trim input) = some url ∧ crate.Permitted url ∧
      ((∃ list p, crate.parameter url "list" = some list ∧ validIdentifier list = true ∧
          crate.canonical list = .ok p ∧ link = .playlist p) ∨
        (crate.parameter url "list").filter validIdentifier = none ∧ crate.NamesVideo url ∧
          link = .video (crate.text url)) := by
  rw [classify] at h
  split at h
  · cases h
    exact absurd rfl (hsearch _)
  · rename_i url hparse
    split at h
    · cases h
      exact absurd rfl hknown
    · rename_i hsupported
      have hpermitted : crate.Permitted url := supported_iff.mp (by simpa using hsupported)
      refine ⟨url, hparse, hpermitted, ?_⟩
      split at h
      · rename_i list hlist
        left
        obtain ⟨hlist, hvalid⟩ := Option.filter_eq_some_iff.mp hlist
        cases hcanonical : crate.canonical list with
        | error panic =>
            rw [hcanonical] at h
            cases h
        | ok p =>
            rw [hcanonical] at h
            cases h
            exact ⟨list, _, hlist, hvalid, hcanonical, rfl⟩
      · rename_i hlist
        right
        by_cases hvideo : crate.namesVideo url = true
        · rw [if_pos hvideo] at h
          cases h
          exact ⟨hlist, namesVideo_iff.mp hvideo, rfl⟩
        · rw [if_neg hvideo] at h
          cases h
          exact absurd rfl hknown

/-- A video link is the text of a permitted URL without a list that names a video. -/
theorem classify_video {input u : String} (h : crate.classify input = .ok (.video u)) :
    ∃ url, crate.parse (trim input) = some url ∧ u = crate.text url ∧ crate.Permitted url ∧
      (crate.parameter url "list").filter validIdentifier = none ∧ crate.NamesVideo url := by
  obtain ⟨url, hparse, hpermitted, ⟨_, _, -, -, -, hlink⟩ | ⟨hlist, hvideo, hlink⟩⟩ :=
    classify_link h (by simp) (by simp)
  · cases hlink
  · cases hlink
    exact ⟨url, hparse, rfl, hpermitted, hlist, hvideo⟩

/-- A text that parses as such a URL is classified as a video link. -/
theorem classify_of_video {input : String} (hparse : crate.parse (trim input) = some url)
    (hpermitted : crate.Permitted url)
    (hlist : (crate.parameter url "list").filter validIdentifier = none)
    (hvideo : crate.NamesVideo url) :
    crate.classify input = .ok (.video (crate.text url)) := by
  rw [classify]
  simp only [hparse, supported_iff.mpr hpermitted, hlist, namesVideo_iff.mpr hvideo, if_true,
    Bool.not_true, Bool.false_eq_true, if_false]

/-- A playlist link comes from a permitted URL whose first list is an identifier. -/
theorem classify_playlist {input p : String} (h : crate.classify input = .ok (.playlist p)) :
    ∃ url list, crate.parse (trim input) = some url ∧ crate.Permitted url ∧
      crate.parameter url "list" = some list ∧ validIdentifier list = true ∧
      crate.canonical list = .ok p := by
  obtain ⟨url, hparse, hpermitted, ⟨list, _, hlist, hvalid, hcanonical, hlink⟩ | ⟨-, -, hlink⟩⟩ :=
    classify_link h (by simp) (by simp)
  · cases hlink
    exact ⟨url, list, hparse, hpermitted, hlist, hvalid, hcanonical⟩
  · cases hlink

theorem classify_of_playlist {input list p : String} (hparse : crate.parse (trim input) = some url)
    (hpermitted : crate.Permitted url) (hlist : crate.parameter url "list" = some list)
    (hvalid : validIdentifier list = true) (hcanonical : crate.canonical list = .ok p) :
    crate.classify input = .ok (.playlist p) := by
  rw [classify]
  simp only [hparse, supported_iff.mpr hpermitted, hlist, hcanonical, Option.filter_some, hvalid,
    Bool.not_true, Bool.false_eq_true, if_false, if_true]
  rfl

/-! ## Links that come back -/

namespace Lawful

variable (h : crate.Lawful)

include h

/-- The text of a permitted URL parses as that URL. -/
theorem parse_permitted (hpermitted : crate.Permitted url) :
    crate.parse (trim (crate.text url)) = some url := by
  rw [h.trim_text url hpermitted.scheme]
  exact h.parse_text url

/-- A video link is classified as itself. -/
theorem video_again {input u : String} (hvideo : crate.classify input = .ok (.video u)) :
    crate.classify u = .ok (.video u) := by
  obtain ⟨url, -, rfl, hpermitted, hlist, hnames⟩ := classify_video hvideo
  exact classify_of_video (h.parse_permitted hpermitted) hpermitted hlist hnames

/-- The address of a playlist is that of a permitted URL with its list. -/
theorem canonical_listed {list p : String} (hvalid : validIdentifier list = true)
    (hcanonical : crate.canonical list = .ok p) :
    p = "https://www.youtube.com/playlist?list=" ++ list ∧ ∃ url, p = crate.text url ∧
      crate.Permitted url ∧ crate.parameter url "list" = some list := by
  obtain ⟨base, hbase, hlisted⟩ := h.page
  obtain ⟨htext, hscheme, hhost, husername, hpassword, hport, hpairs⟩ := hlisted list hvalid
  rw [canonical, hbase] at hcanonical
  cases hcanonical
  constructor
  · rw [htext]
    rfl
  · refine ⟨_, rfl, ⟨.inl hscheme, ⟨"www.youtube.com", by simp [hosts], hhost⟩, husername,
      hpassword, hport⟩, ?_⟩
    simp [parameter, hpairs]

/-- A playlist link is classified as itself. -/
theorem playlist_again {input p : String} (hplaylist : crate.classify input = .ok (.playlist p)) :
    crate.classify p = .ok (.playlist p) := by
  obtain ⟨-, list, -, -, -, hvalid, hcanonical⟩ := classify_playlist hplaylist
  obtain ⟨-, url, rfl, hpermitted, hlist⟩ := h.canonical_listed hvalid hcanonical
  exact classify_of_playlist (h.parse_permitted hpermitted) hpermitted hlist hvalid hcanonical

/-- What is passed to the music node is a prefixed search, or a permitted address. -/
theorem identifiers_permitted {input first : String} {fallback : Option String} {playlist : Bool}
    (hresolved : crate.identifiers input = .ok (.ok (first, fallback, playlist))) :
    (∃ query, query ≠ "" ∧ first = "ytmsearch:" ++ query ∧
        fallback = some ("ytsearch:" ++ query) ∧ playlist = false) ∨
      fallback = none ∧ ∃ url, crate.parse first = some url ∧ crate.Permitted url := by
  rw [identifiers] at hresolved
  cases hclassified : crate.classify input with
  | error panic =>
      rw [hclassified] at hresolved
      cases hresolved
  | ok link =>
      rw [hclassified, Except.map, Except.ok.injEq] at hresolved
      cases link with
      | search query =>
          by_cases hempty : query.isEmpty = true
          · simp only [hempty, if_true] at hresolved
            cases hresolved
          · simp only [hempty] at hresolved
            cases hresolved
            left
            exact ⟨query, fun heq => hempty (by simp [heq]), rfl, rfl, rfl⟩
      | video u =>
          cases hresolved
          right
          obtain ⟨url, -, rfl, hpermitted, -⟩ := classify_video hclassified
          exact ⟨rfl, url, h.parse_text url, hpermitted⟩
      | playlist p =>
          cases hresolved
          right
          obtain ⟨-, list, -, -, -, hvalid, hcanonical⟩ := classify_playlist hclassified
          obtain ⟨-, url, rfl, hpermitted, -⟩ := h.canonical_listed hvalid hcanonical
          exact ⟨rfl, url, h.parse_text url, hpermitted⟩
      | unsupported => cases hresolved

end Lawful

/-- Video links are permitted addresses that name a video in the way of their host, playlist
links are the playlist page with the first list, both are classified as themselves, and
nothing but prefixed searches and permitted addresses is passed to the music node. -/
theorem classify_sound (crate : UrlCrate) (h : crate.Lawful) (input : String) :
    (∀ u, crate.classify input = .ok (.video u) →
        (∃ url, crate.parse (trim input) = some url ∧ u = crate.text url ∧
          crate.Permitted url ∧ crate.NamesVideo url) ∧
        crate.classify u = .ok (.video u)) ∧
      (∀ p, crate.classify input = .ok (.playlist p) →
        (∃ url list, crate.parse (trim input) = some url ∧ crate.Permitted url ∧
          crate.parameter url "list" = some list ∧ validIdentifier list = true ∧
          p = "https://www.youtube.com/playlist?list=" ++ list) ∧
        crate.classify p = .ok (.playlist p)) ∧
      ∀ first fallback playlist,
        crate.identifiers input = .ok (.ok (first, fallback, playlist)) →
          (∃ query, query ≠ "" ∧ first = "ytmsearch:" ++ query ∧
            fallback = some ("ytsearch:" ++ query) ∧ playlist = false) ∨
          fallback = none ∧ ∃ url, crate.parse first = some url ∧ crate.Permitted url := by
  constructor
  · intro u hvideo
    obtain ⟨url, hparse, hu, hpermitted, -, hnames⟩ := classify_video hvideo
    exact ⟨⟨url, hparse, hu, hpermitted, hnames⟩, h.video_again hvideo⟩
  constructor
  · intro p hplaylist
    obtain ⟨url, list, hparse, hpermitted, hlist, hvalid, hcanonical⟩ :=
      classify_playlist hplaylist
    have haddress := (h.canonical_listed hvalid hcanonical).1
    exact ⟨⟨url, list, hparse, hpermitted, hlist, hvalid, haddress⟩, h.playlist_again hplaylist⟩
  · intro first fallback playlist hresolved
    exact h.identifiers_permitted hresolved

end UrlCrate

/-! ## A crate that knows three kinds of addresses -/

namespace Sample

/-- The identifiers of videos and playlists. -/
def Identifier := { id : String // validIdentifier id = true }

/-- The playlist page, the page of a list, and a short link. -/
inductive Page
  | page
  | list (id : Identifier)
  | short (id : Identifier)

def shortPrefix : String := "https://youtu.be/"

def listPrefix : String := playlistPage ++ "?list="

def Page.text : Page → String
  | .page => playlistPage
  | .list id => listPrefix ++ id.1
  | .short id => shortPrefix ++ id.1

/-- What follows a prefix, if it is an identifier. -/
def after (start text : String) : Option Identifier :=
  if text.toList.take start.length = start.toList then
    let id := String.ofList (text.toList.drop start.length)
    if h : validIdentifier id = true then some ⟨id, h⟩ else none
  else none

def parse (text : String) : Option Page :=
  if text = playlistPage then some .page
  else match after listPrefix text with
  | some id => some (.list id)
  | none => (after shortPrefix text).map .short

/-- A crate for these addresses. -/
def crate : UrlCrate where
  Url := Page
  parse := parse
  scheme _ := "https"
  hostStr
    | .page | .list _ => some "www.youtube.com"
    | .short _ => some "youtu.be"
  username _ := ""
  password _ := none
  port _ := none
  path
    | .page | .list _ => "/playlist"
    | .short id => "/" ++ id.1
  pathSegments
    | .page | .list _ => some ["playlist"]
    | .short id => some [id.1]
  queryPairs
    | .list id => [("list", id.1)]
    | _ => []
  appendPair url key value :=
    match url with
    | .page => if h : key = "list" ∧ validIdentifier value = true then .list ⟨value, h.2⟩ else .page
    | url => url
  text := Page.text

theorem after_append (start : String) (id : Identifier) :
    after start (start ++ id.1) = some id := by
  have htake : (start ++ id.1).toList.take start.length = start.toList := by
    rw [String.toList_append, ← String.length_toList, List.take_left']
    rfl
  have hdrop : (start ++ id.1).toList.drop start.length = id.1.toList := by
    rw [String.toList_append, ← String.length_toList, List.drop_left']
    rfl
  rw [after, if_pos htake]
  simp only [hdrop, String.ofList_toList]
  rw [dif_pos id.2]
  rfl

/-- Short links are no playlist pages. -/
theorem after_short (id : Identifier) : after listPrefix (shortPrefix ++ id.1) = none := by
  have hother : ¬ (shortPrefix ++ id.1).toList.take listPrefix.length = listPrefix.toList := by
    intro heq
    have hchar := congrArg (fun chars => chars[8]?) heq
    have hlong : 8 < listPrefix.length := by decide +kernel
    rw [List.getElem?_take_of_lt hlong, String.toList_append] at hchar
    simp [listPrefix, shortPrefix, playlistPage] at hchar
  rw [after, if_neg hother]

/-- The characters of an identifier are no white space. -/
theorem isWhitespace_of_identifier {c : Char}
    (h : (c.isAlphanum || c == '-' || c == '_') = true) : Text.isWhitespace c = false := by
  have hrange : 45 ≤ c.toNat ∧ c.toNat ≤ 122 := by
    simp only [Char.isAlphanum, Char.isAlpha, Char.isUpper, Char.isLower, Char.isDigit,
      Bool.or_eq_true, Bool.and_eq_true, decide_eq_true_eq, beq_iff_eq, ge_iff_le,
      UInt32.le_iff_toNat_le] at h
    rcases h with (((⟨hlow, hhigh⟩ | ⟨hlow, hhigh⟩) | ⟨hlow, hhigh⟩) | rfl) | rfl
    · exact ⟨le_trans (by decide) hlow, le_trans hhigh (by decide)⟩
    · exact ⟨le_trans (by decide) hlow, le_trans hhigh (by decide)⟩
    · exact ⟨le_trans (by decide) hlow, le_trans hhigh (by decide)⟩
    · decide
    · decide
  simp [Text.isWhitespace]
  omega

theorem trim_of_all {text : List Char} (h : ∀ c ∈ text, Text.isWhitespace c = false) :
    Text.trim text = text := by
  have hkeeps : ∀ chars : List Char, (∀ c ∈ chars, Text.isWhitespace c = false) →
      chars.dropWhile Text.isWhitespace = chars := by
    intro chars hchars
    rw [List.dropWhile_eq_self_iff]
    intro hl
    rw [hchars _ (List.getElem_mem hl)]
    exact Bool.false_ne_true
  rw [Text.trim, hkeeps text h, hkeeps, List.reverse_reverse]
  intro c hc
  exact h c (List.mem_reverse.mp hc)

theorem trim_append (start : String)
    (hstart : (start.toList.all fun c => !Text.isWhitespace c) = true) (id : Identifier) :
    trim (start ++ id.1) = start ++ id.1 := by
  rw [trim, trim_of_all, String.ofList_toList]
  intro c hc
  rw [String.toList_append, List.mem_append] at hc
  rcases hc with hc | hc
  · simpa using List.all_eq_true.mp hstart c hc
  · have hvalid := id.2
    rw [validIdentifier, Bool.and_eq_true] at hvalid
    exact isWhitespace_of_identifier (List.all_eq_true.mp hvalid.2 c hc)

/-- An address with an identifier is longer than the playlist page, or another one. -/
theorem listPrefix_ne (id : Identifier) : listPrefix ++ id.1 ≠ playlistPage := by
  intro heq
  have hlength := congrArg String.length heq
  rw [String.length_append] at hlength
  have hlonger : playlistPage.length < listPrefix.length := by decide +kernel
  omega

theorem shortPrefix_ne (id : Identifier) : shortPrefix ++ id.1 ≠ playlistPage := by
  intro heq
  have hchar := congrArg (fun text => text.toList[8]?) heq
  simp [shortPrefix, playlistPage] at hchar

theorem crate_lawful : crate.Lawful where
  parse_text := by
    rintro (_ | id | id)
    · rfl
    · show parse (listPrefix ++ id.1) = some (.list id)
      rw [parse, if_neg (listPrefix_ne id), after_append]
    · show parse (shortPrefix ++ id.1) = some (.short id)
      rw [parse, if_neg (shortPrefix_ne id), after_short, after_append]
      rfl
  trim_text := by
    rintro (_ | id | id) -
    · decide +kernel
    · exact trim_append listPrefix (by decide +kernel) id
    · exact trim_append shortPrefix (by decide +kernel) id
  page := by
    refine ⟨.page, rfl, ?_⟩
    intro list hvalid
    have hlist : crate.appendPair .page "list" list = .list ⟨list, hvalid⟩ := by
      simp [crate, hvalid]
    rw [hlist]
    exact ⟨rfl, rfl, rfl, rfl, rfl, rfl, rfl⟩

/-- A short link with white space around it is passed on as a video. -/
theorem classify_sound_short :
    (∃ url, crate.parse (trim " https://youtu.be/dQw4w9WgXcQ ") = some url ∧
        "https://youtu.be/dQw4w9WgXcQ" = crate.text url ∧ crate.Permitted url ∧
        crate.NamesVideo url) ∧
      crate.classify "https://youtu.be/dQw4w9WgXcQ" =
        .ok (.video "https://youtu.be/dQw4w9WgXcQ") :=
  (UrlCrate.classify_sound crate crate_lawful " https://youtu.be/dQw4w9WgXcQ ").1 _
    (by decide +kernel)

end Sample

end Raydio.Resolver
