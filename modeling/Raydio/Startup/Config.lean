/-
# The configuration read from the environment

`Config::from_env` checks the token, the log level, the switch for live streams and then
the numbers, and stops at the first that it refuses. What it accepts is within the bounds
that the rest of the bot relies on, and every configuration within them can be asked for.
What it refuses is named by its variable, in words that do not depend on the value.
-/

import Raydio.Foundation.Attempt
import Raydio.Resolver.Resolution
import Raydio.Resolver.Urls
import Raydio.Session.Paging

namespace Raydio.Startup

open Raydio.Foundation Raydio.Resolver

/-- The variables of the environment that are set. -/
abbrev Environment := String → Option String

/-- `Config`. -/
structure Config where
  token : String
  logLevel : String
  volume : ℕ
  idleSeconds : ℕ
  aloneSeconds : ℕ
  pending : ℕ
  limits : Limits
  deriving DecidableEq, Repr

/-! ## The checks -/

/-- The variable that holds the token. -/
def tokenKey (testbot : Bool) : String :=
  if testbot then "DISCORD_TOKEN_TESTBOT" else "DISCORD_TOKEN"

/-- The token is not blank at either end and fits on one line. -/
def isToken (value : String) : Bool :=
  !value.isEmpty && Text.trim value.toList = value.toList && !value.toList.any Text.isControl

/-- The token. -/
def readToken (testbot : Bool) (raw : Option String) : Except String String :=
  match raw.filter isToken with
  | some token => .ok token
  | none => .error s!"{tokenKey testbot}: a nonempty single-line token is required"

/-- The levels that `LOG_LEVEL` may name. -/
def logLevels : List String := ["fatal", "error", "warn", "info", "debug", "trace", "silent"]

/-- The log level. -/
def readLogLevel (raw : Option String) : Except String String :=
  if logLevels.contains (raw.getD "info") then .ok (raw.getD "info")
  else .error "LOG_LEVEL: invalid log level"

/-- The switch for live streams. -/
def readStreams : Option String → Except String Bool
  | none | some "false" => .ok false
  | some "true" => .ok true
  | _ => .error "ALLOW_LIVESTREAMS: must be exactly true or false"

/-- A number of the configuration: its variable, its default and its bounds. -/
structure Setting where
  name : String
  default : ℕ
  min : ℕ
  max : ℕ

/-- `integer`, given the value of the variable. -/
def Setting.read (setting : Setting) (raw : Option String) : Except String ℕ :=
  match raw with
  | none => .ok setting.default
  | some raw =>
      let raw := Text.trim raw.toList
      if raw.isEmpty || !raw.all Char.isDigit then
        .error s!"{setting.name}: decimal integer required"
      else match Text.parseUnsigned u64Max (String.ofList raw) with
        | none => .error s!"{setting.name}: integer out of range"
        | some value =>
            if value < setting.min || setting.max < value then
              .error s!"{setting.name}: must be between {setting.min} and {setting.max}"
            else .ok value

/-- The largest integer that a double represents along with its neighbours. -/
def maxSafe : ℕ := 9007199254740991

def trackHours : Setting := ⟨"MAX_TRACK_DURATION_HOURS", 3, 1, maxSafe / 3600000⟩

def defaultVolume : Setting := ⟨"DEFAULT_VOLUME", 70, 0, 100⟩

def idleDisconnect : Setting := ⟨"IDLE_DISCONNECT_SECONDS", 120, 1, maxSafe / 1000⟩

def aloneDisconnect : Setting := ⟨"ALONE_DISCONNECT_SECONDS", 120, 1, maxSafe / 1000⟩

def pendingPlays : Setting := ⟨"MAX_PENDING_PLAY_REQUESTS", 10, 1, maxSafe⟩

def playlistTracks : Setting := ⟨"MAX_PLAYLIST_TRACKS", 250, 1, maxSafe⟩

def queueTracks : Setting := ⟨"MAX_QUEUE_TRACKS", 1000, 1, maxSafe⟩

/-- The numbers in the order in which they are read. -/
def settings : List Setting :=
  [trackHours, defaultVolume, idleDisconnect, aloneDisconnect, pendingPlays, playlistTracks,
    queueTracks]

/-- `Config::from_env`. The casts to narrower types are the identity, because the bounds
are below 2^16 and 2^64. -/
def fromEnv (env : Environment) (testbot : Bool) : Except String Config := do
  let token ← readToken testbot (env (tokenKey testbot))
  let logLevel ← readLogLevel (env "LOG_LEVEL")
  let allowStreams ← readStreams (env "ALLOW_LIVESTREAMS")
  let hours ← trackHours.read (env trackHours.name)
  let volume ← defaultVolume.read (env defaultVolume.name)
  let idleSeconds ← idleDisconnect.read (env idleDisconnect.name)
  let aloneSeconds ← aloneDisconnect.read (env aloneDisconnect.name)
  let pending ← pendingPlays.read (env pendingPlays.name)
  let playlists ← playlistTracks.read (env playlistTracks.name)
  let queue ← queueTracks.read (env queueTracks.name)
  return ⟨token, logLevel, volume, idleSeconds, aloneSeconds, pending,
    ⟨playlists, queue, hours * 3600000, allowStreams⟩⟩

/-! ## Numbers -/

/-- The value is within the bounds of a setting. -/
def Setting.Within (setting : Setting) (value : ℕ) : Prop :=
  setting.min ≤ value ∧ value ≤ setting.max

/-- Every default passes its own check, and no bound exceeds a machine word. -/
theorem settings_sound : ∀ setting ∈ settings,
    setting.Within setting.default ∧ setting.max ≤ u64Max := by
  simp only [Setting.Within]
  decide

theorem Setting.read_within {setting : Setting} (hsetting : setting ∈ settings)
    {raw : Option String} {value : ℕ} (h : setting.read raw = .ok value) :
    setting.Within value := by
  unfold Setting.read at h
  split at h
  · cases h
    exact (settings_sound setting hsetting).1
  · dsimp only at h
    split at h
    · cases h
    · split at h
      · cases h
      · split at h
        · cases h
        · rename_i hbounds
          cases h
          simp only [Bool.or_eq_true, decide_eq_true_eq, not_or, Nat.not_lt] at hbounds
          exact hbounds

/-- No digit is blank. -/
theorem isWhitespace_of_isDigit {c : Char} (h : c.isDigit = true) :
    Text.isWhitespace c = false := by
  have hrange : 48 ≤ c.toNat ∧ c.toNat ≤ 57 := by
    simp only [Char.isDigit, Bool.and_eq_true, decide_eq_true_eq] at h
    exact h
  simp only [Text.isWhitespace, Bool.or_eq_false_iff, Bool.and_eq_false_iff,
    decide_eq_false_iff_not, beq_eq_false_iff_ne]
  omega

/-- A written number is read back if it is within the bounds. -/
theorem Setting.read_repr {setting : Setting} (hsetting : setting ∈ settings) {value : ℕ}
    (h : setting.Within value) : setting.read (some (Nat.repr value)) = .ok value := by
  have hdigits : ∀ c ∈ (Nat.repr value).toList, c.isDigit = true := by
    intro c hc
    rw [Nat.toList_repr] at hc
    exact Nat.isDigit_of_mem_toDigits (by decide) (by decide) hc
  have htrim : Text.trim (Nat.repr value).toList = (Nat.repr value).toList :=
    Resolver.Sample.trim_of_all fun c hc => isWhitespace_of_isDigit (hdigits c hc)
  have hnonempty : (Nat.repr value).toList.isEmpty = false := by
    rw [Nat.toList_repr, List.isEmpty_eq_false_iff]
    exact Nat.toDigits_ne_nil
  have hall : (Nat.repr value).toList.all Char.isDigit = true := List.all_eq_true.mpr hdigits
  have hlarge : value ≤ u64Max := h.2.trans (settings_sound setting hsetting).2
  have hparse := Session.parseUnsigned_repr hlarge
  have hbounds : (decide (value < setting.min) || decide (setting.max < value)) = false := by
    simpa [Setting.Within] using h
  simp only [Setting.read, htrim, hnonempty, hall, String.ofList_toList, hparse, hbounds]
  rfl

/-! ## What is accepted -/

/-- The bounds of a configuration. -/
structure Config.WellFormed (config : Config) : Prop where
  token : isToken config.token = true
  logLevel : config.logLevel ∈ logLevels
  volume : config.volume ≤ 100
  idleSeconds : 1 ≤ config.idleSeconds ∧ config.idleSeconds * 1000 ≤ maxSafe
  aloneSeconds : 1 ≤ config.aloneSeconds ∧ config.aloneSeconds * 1000 ≤ maxSafe
  pending : 1 ≤ config.pending ∧ config.pending ≤ maxSafe
  playlists : 1 ≤ config.limits.playlists ∧ config.limits.playlists ≤ maxSafe
  queue : 1 ≤ config.limits.queue ∧ config.limits.queue ≤ maxSafe
  maxDurationMs : 1 ≤ config.limits.maxDurationMs ∧ config.limits.maxDurationMs ≤ maxSafe
  wholeHours : 3600000 ∣ config.limits.maxDurationMs

/-- The text of a switch. -/
def switchText (value : Bool) : String := if value then "true" else "false"

/-- The variables that ask for a configuration. -/
def Config.variables (config : Config) (testbot : Bool) : List (String × String) :=
  [(tokenKey testbot, config.token),
    ("LOG_LEVEL", config.logLevel),
    ("ALLOW_LIVESTREAMS", switchText config.limits.allowStreams),
    (trackHours.name, Nat.repr (config.limits.maxDurationMs / 3600000)),
    (defaultVolume.name, Nat.repr config.volume),
    (idleDisconnect.name, Nat.repr config.idleSeconds),
    (aloneDisconnect.name, Nat.repr config.aloneSeconds),
    (pendingPlays.name, Nat.repr config.pending),
    (playlistTracks.name, Nat.repr config.limits.playlists),
    (queueTracks.name, Nat.repr config.limits.queue)]

/-- The environment that asks for a configuration. -/
def Config.environment (config : Config) (testbot : Bool) : Environment :=
  fun name => (config.variables testbot).lookup name

/-- No variable is asked for twice. -/
theorem variables_nodup (config : Config) (testbot : Bool) :
    ((config.variables testbot).map Prod.fst).Nodup := by
  show [tokenKey testbot, "LOG_LEVEL", "ALLOW_LIVESTREAMS", "MAX_TRACK_DURATION_HOURS",
    "DEFAULT_VOLUME", "IDLE_DISCONNECT_SECONDS", "ALONE_DISCONNECT_SECONDS",
    "MAX_PENDING_PLAY_REQUESTS", "MAX_PLAYLIST_TRACKS", "MAX_QUEUE_TRACKS"].Nodup
  cases testbot with
  | false => decide
  | true => decide

/-- The value of a name that occurs once is found. -/
theorem lookup_of_nodup {entries : List (String × String)} {name value : String}
    (hnodup : (entries.map Prod.fst).Nodup) (h : (name, value) ∈ entries) :
    entries.lookup name = some value := by
  induction entries with
  | nil => cases h
  | cons entry entries ih =>
      rw [List.map_cons, List.nodup_cons] at hnodup
      rcases List.mem_cons.mp h with rfl | h
      · exact List.lookup_cons_self
      · have hne : (name == entry.1) = false := by
          rw [beq_eq_false_iff_ne]
          intro heq
          have hmem := List.mem_map_of_mem (f := Prod.fst) h
          rw [heq] at hmem
          exact hnodup.1 hmem
        rw [List.lookup_cons, hne]
        exact ih hnodup.2 h

theorem environment_eq {config : Config} {testbot : Bool} {name value : String}
    (h : (name, value) ∈ config.variables testbot) :
    config.environment testbot name = some value :=
  lookup_of_nodup (variables_nodup config testbot) h

theorem readToken_ok {testbot : Bool} {raw : Option String} {token : String}
    (h : readToken testbot raw = .ok token) : raw = some token ∧ isToken token = true := by
  unfold readToken at h
  split at h
  · rename_i hfilter
    cases h
    exact Option.filter_eq_some_iff.mp hfilter
  · cases h

theorem readLogLevel_ok {raw : Option String} {level : String}
    (h : readLogLevel raw = .ok level) : level = raw.getD "info" ∧ level ∈ logLevels := by
  unfold readLogLevel at h
  split at h
  · rename_i hmem
    cases h
    exact ⟨rfl, List.contains_iff_mem.mp hmem⟩
  · cases h

theorem readStreams_switchText (value : Bool) :
    readStreams (some (switchText value)) = .ok value := by
  cases value with
  | false => rfl
  | true => rfl

/-- The parts of a configuration that was accepted. -/
theorem fromEnv_ok {env : Environment} {testbot : Bool} {config : Config}
    (h : fromEnv env testbot = .ok config) :
    readToken testbot (env (tokenKey testbot)) = .ok config.token ∧
    readLogLevel (env "LOG_LEVEL") = .ok config.logLevel ∧
    (∃ hours, trackHours.read (env trackHours.name) = .ok hours ∧
      config.limits.maxDurationMs = hours * 3600000) ∧
    defaultVolume.read (env defaultVolume.name) = .ok config.volume ∧
    idleDisconnect.read (env idleDisconnect.name) = .ok config.idleSeconds ∧
    aloneDisconnect.read (env aloneDisconnect.name) = .ok config.aloneSeconds ∧
    pendingPlays.read (env pendingPlays.name) = .ok config.pending ∧
    playlistTracks.read (env playlistTracks.name) = .ok config.limits.playlists ∧
    queueTracks.read (env queueTracks.name) = .ok config.limits.queue := by
  simp only [fromEnv, Attempt.bind_eq_ok_iff] at h
  obtain ⟨token, htoken, level, hlevel, streams, -, hours, hhours, volume, hvolume, idle, hidle,
    alone, halone, pending, hpending, playlists, hplaylists, queue, hqueue, heq⟩ := h
  cases heq
  exact ⟨htoken, hlevel, ⟨hours, hhours, rfl⟩, hvolume, hidle, halone, hpending, hplaylists, hqueue⟩

/-- What is accepted is within the bounds. -/
theorem wellFormed_of_fromEnv {env : Environment} {testbot : Bool} {config : Config}
    (h : fromEnv env testbot = .ok config) : config.WellFormed := by
  obtain ⟨htoken, hlevel, ⟨hours, hhours, hduration⟩, hvolume, hidle, halone, hpending,
    hplaylists, hqueue⟩ := fromEnv_ok h
  have hvolume := Setting.read_within (by simp [settings]) hvolume
  have hidle := Setting.read_within (by simp [settings]) hidle
  have halone := Setting.read_within (by simp [settings]) halone
  have hpending := Setting.read_within (by simp [settings]) hpending
  have hplaylists := Setting.read_within (by simp [settings]) hplaylists
  have hqueue := Setting.read_within (by simp [settings]) hqueue
  have hhours := Setting.read_within (by simp [settings]) hhours
  simp only [Setting.Within, defaultVolume, idleDisconnect, aloneDisconnect, pendingPlays,
    playlistTracks, queueTracks, trackHours, maxSafe] at *
  exact {
    token := (readToken_ok htoken).2
    logLevel := (readLogLevel_ok hlevel).2
    volume := hvolume.2
    idleSeconds := by rw [maxSafe]; omega
    aloneSeconds := by rw [maxSafe]; omega
    pending := hpending
    playlists := hplaylists
    queue := hqueue
    maxDurationMs := by rw [maxSafe]; omega
    wholeHours := ⟨hours, by rw [hduration, Nat.mul_comm]⟩ }

/-- A configuration within the bounds is read back from the environment that asks for it. -/
theorem fromEnv_environment {config : Config} (h : config.WellFormed) (testbot : Bool) :
    fromEnv (config.environment testbot) testbot = .ok config := by
  obtain ⟨hours, hhours⟩ := h.wholeHours
  have hduration := h.maxDurationMs
  have hidle := h.idleSeconds
  have halone := h.aloneSeconds
  simp only [maxSafe] at hduration hidle halone
  have hdiv : config.limits.maxDurationMs / 3600000 = hours := by omega
  have hvalue : ∀ {name value}, (name, value) ∈ config.variables testbot →
      config.environment testbot name = some value := environment_eq
  have hnumber : ∀ setting ∈ settings, ∀ value, setting.Within value →
      (setting.name, Nat.repr value) ∈ config.variables testbot →
      setting.read (config.environment testbot setting.name) = .ok value := by
    intro setting hmem value hwithin hasked
    rw [hvalue hasked]
    exact Setting.read_repr hmem hwithin
  have htoken : readToken testbot (config.environment testbot (tokenKey testbot)) =
      .ok config.token := by
    have hasked : (tokenKey testbot, config.token) ∈ config.variables testbot := by
      simp [Config.variables]
    have hfilter : (some config.token).filter isToken = some config.token := by
      simp [Option.filter, h.token]
    rw [hvalue hasked, readToken, hfilter]
  have hlevel : readLogLevel (config.environment testbot "LOG_LEVEL") = .ok config.logLevel := by
    have hasked : ("LOG_LEVEL", config.logLevel) ∈ config.variables testbot := by
      simp [Config.variables]
    simp [hvalue hasked, readLogLevel, h.logLevel]
  have hstreams : readStreams (config.environment testbot "ALLOW_LIVESTREAMS") =
      .ok config.limits.allowStreams := by
    have hasked : ("ALLOW_LIVESTREAMS", switchText config.limits.allowStreams) ∈
        config.variables testbot := by
      simp [Config.variables]
    rw [hvalue hasked]
    exact readStreams_switchText _
  have hhour := hnumber trackHours (by simp [settings]) hours
    ⟨by show 1 ≤ hours; omega, by show hours ≤ 9007199254740991 / 3600000; omega⟩
    (by rw [← hdiv]; simp [Config.variables])
  have hvolume := hnumber defaultVolume (by simp [settings]) config.volume
    ⟨Nat.zero_le _, h.volume⟩ (by simp [Config.variables])
  have hidle := hnumber idleDisconnect (by simp [settings]) config.idleSeconds
    ⟨hidle.1, by show config.idleSeconds ≤ 9007199254740991 / 1000; omega⟩
    (by simp [Config.variables])
  have halone := hnumber aloneDisconnect (by simp [settings]) config.aloneSeconds
    ⟨halone.1, by show config.aloneSeconds ≤ 9007199254740991 / 1000; omega⟩
    (by simp [Config.variables])
  have hpending := hnumber pendingPlays (by simp [settings]) config.pending h.pending
    (by simp [Config.variables])
  have hplaylists := hnumber playlistTracks (by simp [settings]) config.limits.playlists
    h.playlists (by simp [Config.variables])
  have hqueue := hnumber queueTracks (by simp [settings]) config.limits.queue h.queue
    (by simp [Config.variables])
  have hms : hours * 3600000 = config.limits.maxDurationMs := by omega
  simp only [fromEnv, htoken, hlevel, hstreams, hhour, hvolume, hidle, halone, hpending,
    hplaylists, hqueue, hms, bind, Except.bind, pure, Except.pure]

/-- The configurations that some environment asks for are those within the bounds, and they
are read back from the environment that writes them out. -/
theorem fromEnv_accepts_iff (config : Config) (testbot : Bool) :
    ((∃ env, fromEnv env testbot = .ok config) ↔ config.WellFormed) ∧
      (config.WellFormed ↔ fromEnv (config.environment testbot) testbot = .ok config) := by
  have hwritten (h : config.WellFormed) := fromEnv_environment h testbot
  refine ⟨⟨?_, fun h => ⟨_, hwritten h⟩⟩, hwritten, wellFormed_of_fromEnv⟩
  rintro ⟨env, h⟩
  exact wellFormed_of_fromEnv h

/-! ## What is refused -/

/-- The check of one variable. -/
structure Check where
  name : String
  /-- The error, given the value of the variable. -/
  refuse : Option String → Option String

/-- The check of a number. -/
def Setting.check (setting : Setting) : Check :=
  ⟨setting.name, fun raw => Attempt.refusal (setting.read raw)⟩

/-- The checks in their order. -/
def checks (testbot : Bool) : List Check :=
  [⟨tokenKey testbot, fun raw => Attempt.refusal (readToken testbot raw)⟩,
    ⟨"LOG_LEVEL", fun raw => Attempt.refusal (readLogLevel raw)⟩,
    ⟨"ALLOW_LIVESTREAMS", fun raw => Attempt.refusal (readStreams raw)⟩] ++
    settings.map Setting.check

/-- The words of a refusal, which follow the name of the variable. -/
def complaints : List String :=
  ["a nonempty single-line token is required", "invalid log level",
    "must be exactly true or false", "decimal integer required", "integer out of range"] ++
    settings.map fun setting => s!"must be between {setting.min} and {setting.max}"

/-- A refused environment is refused by the first check that fails. -/
theorem refusal_fromEnv (env : Environment) (testbot : Bool) :
    Attempt.refusal (fromEnv env testbot) =
      (checks testbot).findSome? fun check => check.refuse (env check.name) := by
  have hlast : ∀ config : Config, Attempt.refusal (pure config : Except String Config) = none :=
    fun _ => rfl
  have hchain := Attempt.refusal_bind (readToken testbot (env (tokenKey testbot)))
    fun token _ => Attempt.refusal_bind (readLogLevel (env "LOG_LEVEL"))
    fun level _ => Attempt.refusal_bind (readStreams (env "ALLOW_LIVESTREAMS"))
    fun streams _ => Attempt.refusal_bind (trackHours.read (env trackHours.name))
    fun hours _ => Attempt.refusal_bind (defaultVolume.read (env defaultVolume.name))
    fun volume _ => Attempt.refusal_bind (idleDisconnect.read (env idleDisconnect.name))
    fun idle _ => Attempt.refusal_bind (aloneDisconnect.read (env aloneDisconnect.name))
    fun alone _ => Attempt.refusal_bind (pendingPlays.read (env pendingPlays.name))
    fun pending _ => Attempt.refusal_bind (playlistTracks.read (env playlistTracks.name))
    fun playlists _ => Attempt.refusal_bind (queueTracks.read (env queueTracks.name))
    fun queue _ => hlast ⟨token, level, volume, idle, alone, pending,
      ⟨playlists, queue, hours * 3600000, streams⟩⟩
  simp only [checks, settings, List.map_cons, List.map_nil, List.cons_append, List.nil_append,
    Setting.check, Attempt.findSome_cons, List.findSome?_nil]
  exact hchain

/-- The words of a complaint stand after the name and a colon. -/
theorem complaint_append (name complaint : String) :
    name ++ (": " ++ complaint) = s!"{name}: {complaint}" :=
  (String.append_assoc ..).symm

/-- The complaint about a number is about its form, its size or its bounds. -/
theorem refuse_setting {setting : Setting} (hsetting : setting ∈ settings) {raw : Option String}
    {text : String} (h : setting.check.refuse raw = some text) :
    ∃ complaint ∈ complaints, text = s!"{setting.name}: {complaint}" := by
  have hrefused : setting.read raw = .error text := Attempt.refusal_eq_some_iff.mp h
  unfold Setting.read at hrefused
  split at hrefused
  · cases hrefused
  · dsimp only at hrefused
    split at hrefused
    · cases hrefused
      exact ⟨"decimal integer required", by simp [complaints],
        complaint_append setting.name "decimal integer required"⟩
    · split at hrefused
      · cases hrefused
        exact ⟨"integer out of range", by simp [complaints],
          complaint_append setting.name "integer out of range"⟩
      · split at hrefused
        · cases hrefused
          have hmem := List.mem_map_of_mem
            (f := fun setting : Setting => s!"must be between {setting.min} and {setting.max}")
            hsetting
          refine ⟨_, List.mem_append_right _ hmem, ?_⟩
          rw [← complaint_append]
          simp only [toString, String.append_assoc]
          rfl
        · cases hrefused

/-- Every check names its variable, and complains in words fixed in advance. -/
theorem refuse_named {testbot : Bool} {check : Check} (hcheck : check ∈ checks testbot)
    {raw : Option String} {text : String} (h : check.refuse raw = some text) :
    ∃ complaint ∈ complaints, text = s!"{check.name}: {complaint}" := by
  simp only [checks, List.mem_append, List.mem_cons, List.not_mem_nil, or_false,
    List.mem_map] at hcheck
  rcases hcheck with (rfl | rfl | rfl) | ⟨setting, hsetting, rfl⟩
  · rw [Attempt.refusal_eq_some_iff, readToken] at h
    split at h
    · cases h
    · cases h
      exact ⟨"a nonempty single-line token is required", by simp [complaints],
        complaint_append (tokenKey testbot) "a nonempty single-line token is required"⟩
  · rw [Attempt.refusal_eq_some_iff, readLogLevel] at h
    split at h
    · cases h
    · cases h
      exact ⟨"invalid log level", by simp [complaints], rfl⟩
  · rw [Attempt.refusal_eq_some_iff, readStreams.eq_def] at h
    split at h
    · cases h
    · cases h
    · cases h
    · cases h
      exact ⟨"must be exactly true or false", by simp [complaints], rfl⟩
  · exact refuse_setting hsetting h

/-- A refused environment is refused by the first check that fails, whatever the variables
that are looked at later hold. The error names the variable and complains in words fixed in
advance, so that it never quotes what the variable holds. -/
theorem fromEnv_refused_iff (env : Environment) (testbot : Bool) (text : String) :
    fromEnv env testbot = .error text ↔
      ∃ before check after complaint, checks testbot = before ++ check :: after ∧
        (∀ earlier ∈ before, earlier.refuse (env earlier.name) = none) ∧
        check.refuse (env check.name) = some text ∧
        complaint ∈ complaints ∧ text = s!"{check.name}: {complaint}" := by
  rw [← Attempt.refusal_eq_some_iff, refusal_fromEnv, List.findSome?_eq_some_iff]
  constructor
  · rintro ⟨before, check, after, hsplit, hrefused, hearlier⟩
    have hmem : check ∈ checks testbot := by
      rw [hsplit]
      exact List.mem_append_right _ List.mem_cons_self
    obtain ⟨complaint, hcomplaint, htext⟩ := refuse_named hmem hrefused
    exact ⟨before, check, after, complaint, hsplit, hearlier, hrefused, hcomplaint, htext⟩
  · rintro ⟨before, check, after, complaint, hsplit, hearlier, hrefused, -, -⟩
    exact ⟨before, check, after, hsplit, hrefused, hearlier⟩

end Raydio.Startup
