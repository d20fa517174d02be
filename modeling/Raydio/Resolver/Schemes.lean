/-
# Which texts are searches

A text is searched if the `url` crate refuses it. The crate reads a scheme before it reads
anything else: a letter, then letters, digits and three signs, up to a colon. Without one a
text is no URL. With one it is, whatever follows, unless the scheme is one of the few that
need a host or a host is announced by two slashes. So a name with a colon after its first
word is taken for a link, and refused as one that is not supported.
-/

import Raydio.Resolver.Urls

namespace Raydio.Resolver

open Raydio.Foundation Raydio.Views

/-! ## Reading a scheme -/

/-- Characters that the crate drops around a text. -/
def isControlOrSpace (c : Char) : Bool := c.toNat ≤ 0x20

/-- Characters that the crate passes over wherever they stand. -/
def isPassedOver (c : Char) : Bool := c == '\t' || c == '\n' || c == '\r'

/-- The characters of a text that the crate reads. -/
def readChars (text : List Char) : List Char :=
  (((text.dropWhile isControlOrSpace).reverse.dropWhile isControlOrSpace).reverse).filter
    fun c => !isPassedOver c

def isSchemeChar (c : Char) : Bool := c.isAlphanum || c == '+' || c == '-' || c == '.'

/-- The scheme, in lower case, and what follows the colon. -/
def schemeRest : List Char → List Char → Option (List Char × List Char)
  | _, [] => none
  | scheme, c :: rest =>
      if c = ':' then some (scheme, rest)
      else if isSchemeChar c then schemeRest (scheme ++ [c.toLower]) rest
      else none

/-- The scheme of a text and what follows it, if it has one. -/
def splitScheme (text : String) : Option (String × List Char) :=
  match readChars text.toList with
  | [] => none
  | c :: rest =>
      if c.isAlpha then
        (schemeRest [c.toLower] rest).map fun (scheme, rest) => (String.ofList scheme, rest)
      else none

/-- The schemes whose URLs have a host. -/
def specialSchemes : List String := ["http", "https", "ws", "wss", "ftp", "file"]

/-- The scheme does not decide whether a text is a URL: its host does, or its length. -/
def undecided (text scheme : String) (rest : List Char) : Bool :=
  specialSchemes.contains scheme || rest.take 2 == ['/', '/'] ||
    decide (2 ^ 30 ≤ text.utf8ByteSize)

/-- What the crate promises about schemes: a text without one is no URL, as there is no base;
one with a scheme and no host is a URL, as any path will do. -/
structure SchemeLaws (crate : UrlCrate) : Prop where
  relative : ∀ text, splitScheme text = none → crate.parse text = none
  absolute : ∀ text scheme rest, splitScheme text = some (scheme, rest) →
    undecided text scheme rest = false → ∃ url, crate.parse text = some url ∧
      crate.scheme url = scheme

/-! ## Searches -/

/-- A text is no URL: it has no scheme, or one that needs a host, which is malformed. -/
def Searchable (crate : UrlCrate) (text : String) : Prop :=
  splitScheme text = none ∨ ∃ scheme rest, splitScheme text = some (scheme, rest) ∧
    undecided text scheme rest = true ∧ crate.parse text = none

variable {crate : UrlCrate} {input text : String}

theorem classify_eq_search_iff :
    crate.classify input = .ok (.search (trim input)) ↔ crate.parse (trim input) = none := by
  constructor
  · intro h
    by_contra hsome
    obtain ⟨url, hparse⟩ := Option.ne_none_iff_exists'.mp hsome
    rw [UrlCrate.classify] at h
    simp only [hparse] at h
    split at h
    · cases h
    · split at h
      · rename_i list _
        cases hcanonical : crate.canonical list with
        | error panic =>
            rw [hcanonical] at h
            cases h
        | ok p =>
            rw [hcanonical] at h
            cases h
      · split at h
        · cases h
        · cases h
  · intro hnone
    rw [UrlCrate.classify]
    simp only [hnone]

theorem parse_eq_none_iff (hlaws : SchemeLaws crate) :
    crate.parse text = none ↔ Searchable crate text := by
  constructor
  · intro hnone
    cases hscheme : splitScheme text with
    | none => exact .inl hscheme
    | some split =>
        obtain ⟨scheme, rest⟩ := split
        cases hdecided : undecided text scheme rest with
        | true => exact .inr ⟨scheme, rest, hscheme, hdecided, hnone⟩
        | false =>
            obtain ⟨url, hurl, -⟩ := hlaws.absolute text scheme rest hscheme hdecided
            rw [hnone] at hurl
            cases hurl
  · rintro (hscheme | ⟨scheme, rest, -, -, hnone⟩)
    · exact hlaws.relative text hscheme
    · exact hnone

/-- Plain search text: no two slashes, and nothing that looks like a link of the web. -/
def PlainText (input : String) : Prop :=
  ¬['/', '/'] <:+: (trim input).toList ∧ ∀ start ∈ ["http:", "https:"],
    ¬start.toList <+: (trim input).toList.map Char.toLower

/-- A text is searched exactly if it has no scheme, or one that needs a host where the host
is malformed. -/
theorem classify_search_iff (crate : UrlCrate) (hlaws : SchemeLaws crate) (input : String) :
    crate.classify input = .ok (.search (trim input)) ↔ Searchable crate (trim input) := by
  rw [classify_eq_search_iff, parse_eq_none_iff hlaws]

/-! ## A crate that knows schemes -/

/-- A crate for URLs without a host: a scheme and any path. -/
def hostless : UrlCrate where
  Url := String × String
  parse text :=
    match splitScheme text with
    | some (scheme, rest) => if undecided text scheme rest then none else some (scheme, text)
    | none => none
  scheme := Prod.fst
  hostStr _ := none
  username _ := ""
  password _ := none
  port _ := none
  path _ := ""
  pathSegments _ := none
  queryPairs _ := []
  appendPair url _ _ := url
  text := Prod.snd

theorem hostless_laws : SchemeLaws hostless where
  relative text hscheme := by
    simp [hostless, hscheme]
  absolute text scheme rest hscheme hdecided := by
    refine ⟨(scheme, text), ?_, rfl⟩
    simp [hostless, hscheme, hdecided]

theorem classify_search_iff_words :
    hostless.classify "  Daft Punk  " = .ok (.search (trim "  Daft Punk  ")) :=
  (classify_search_iff hostless hostless_laws "  Daft Punk  ").mpr
    (.inl (by decide +kernel))

/-- The name of a series is refused as an unsupported link. -/
theorem classify_name_refused : ¬∀ input, PlainText input →
    hostless.classify input = .ok (.search (trim input)) := by
  intro h
  have hplain : PlainText "Re:Zero" := ⟨by decide +kernel, by decide +kernel⟩
  have hsearch := h "Re:Zero" hplain
  rw [classify_eq_search_iff] at hsearch
  exact absurd hsearch (by decide +kernel)

end Raydio.Resolver
