import CourseReview.Error
import CourseReview.Toml.Parser

/-!
# Settings

Where the review server is and which paths below it answer what, how requests are made, and how
much the console report says.  Every setting has a default, so that any of them may be left out.
Settings come from a TOML file or from JSON; either way they are decoded as records.
-/

namespace CourseReview

open Json

/-- The address of the review server, and the paths of its six endpoints below it. -/
structure ApiSettings where
  baseUrl : String := "http://localhost:18010/"
  outlinePath : String := "meta_translations/api/v0/outline"
  componentsPath : String := "meta_translations/api/v0/components"
  versionPath : String := "meta_translations/api/v0/translated_versions"
  approvePath : String := "meta_translations/api/v0/approve_translations"
  applyPath : String := "meta_translations/api/v0/apply_translated_version"
  pairingsPath : String := "meta_translations/api/v0/versions"
deriving DecidableEq, Repr

/-- How requests are made. -/
structure HttpSettings where
  userAgent : String := "outline-sync/0.1"
  timeoutSecs : Nat := 30
  maxConcurrent : Nat := 4
  authorization : Option String := none
deriving DecidableEq, Repr

/-- How much the report says. -/
structure LoggingSettings where
  level : String := "info"
deriving DecidableEq, Repr

/-- All settings. -/
structure Settings where
  api : ApiSettings := {}
  http : HttpSettings := {}
  logging : LoggingSettings := {}
deriving DecidableEq, Repr

/-! ## Decoding -/

/-- The server's address and endpoints. -/
def ApiSettings.form (openRow : Bool) : RecordForm ApiSettings where
  name := "ApiConfig"
  fields := ["base_url", "outline_path", "components_path", "version_path", "approve_path",
    "apply_path", "pairings_path"]
  needed := []
  neededInRow := []
  blank := {}
  openRow := openRow
  set field j s :=
    match field with
    | "base_url" => return { s with baseUrl := ← decodeString j }
    | "outline_path" => return { s with outlinePath := ← decodeString j }
    | "components_path" => return { s with componentsPath := ← decodeString j }
    | "version_path" => return { s with versionPath := ← decodeString j }
    | "approve_path" => return { s with approvePath := ← decodeString j }
    | "apply_path" => return { s with applyPath := ← decodeString j }
    | "pairings_path" => return { s with pairingsPath := ← decodeString j }
    | _ => return s

/-- How requests are made. -/
def HttpSettings.form (openRow : Bool) : RecordForm HttpSettings where
  name := "HttpConfig"
  fields := ["user_agent", "timeout_secs", "max_concurrent", "authorization"]
  needed := []
  neededInRow := []
  blank := {}
  openRow := openRow
  set field j s :=
    match field with
    | "user_agent" => return { s with userAgent := ← decodeString j }
    | "timeout_secs" => return { s with timeoutSecs := ← decodeNat64 "u64" j }
    | "max_concurrent" => return { s with maxConcurrent := ← decodeNat64 "usize" j }
    | "authorization" => return { s with authorization := ← decodeOption decodeString j }
    | _ => return s

/-- How much the report says. -/
def LoggingSettings.form (openRow : Bool) : RecordForm LoggingSettings where
  name := "LoggingConfig"
  fields := ["level"]
  needed := []
  neededInRow := []
  blank := {}
  openRow := openRow
  set field j s :=
    match field with
    | "level" => return { s with level := ← decodeString j }
    | _ => return s

/-- All settings; `openRow` says whether a section given in a row may go on beyond its fields. -/
def Settings.form (openRow : Bool) : RecordForm Settings where
  name := "Config"
  fields := ["api", "http", "logging"]
  needed := []
  neededInRow := []
  blank := {}
  openRow := openRow
  set field j s :=
    match field with
    | "api" => return { s with api := ← (ApiSettings.form openRow).decode j }
    | "http" => return { s with http := ← (HttpSettings.form openRow).decode j }
    | "logging" => return { s with logging := ← (LoggingSettings.form openRow).decode j }
    | _ => return s

/-! ## Writing -/

/-- The server's address and endpoints as JSON. -/
def ApiSettings.toJson (s : ApiSettings) : Json :=
  .object
    [("base_url", .string s.baseUrl), ("outline_path", .string s.outlinePath),
      ("components_path", .string s.componentsPath), ("version_path", .string s.versionPath),
      ("approve_path", .string s.approvePath), ("apply_path", .string s.applyPath),
      ("pairings_path", .string s.pairingsPath)]

/-- How requests are made, as JSON. -/
def HttpSettings.toJson (s : HttpSettings) : Json :=
  .object
    [("user_agent", .string s.userAgent), ("timeout_secs", .ofNat s.timeoutSecs),
      ("max_concurrent", .ofNat s.maxConcurrent),
      ("authorization", .ofOption .string s.authorization)]

/-- How much the report says, as JSON. -/
def LoggingSettings.toJson (s : LoggingSettings) : Json :=
  .object [("level", .string s.level)]

/-- All settings as JSON. -/
def Settings.toJson (s : Settings) : Json :=
  .object [("api", s.api.toJson), ("http", s.http.toJson), ("logging", s.logging.toJson)]

namespace Settings

/-! ## Reading a file -/

/-- Settings from JSON. -/
def ofJson (j : Json) : Decoded Settings :=
  (form false).decode j

/-- Settings from the text of a TOML file. -/
def ofToml? (text : String) : Option Settings :=
  (Toml.parse? text).bind fun document =>
    match (form true).decode (.object (Toml.entriesToJson document)) with
    | .ok s => some s
    | .error _ => none

/-- Settings from a file, given by its text; the text is absent when the file cannot be read. -/
def load : Option String → Outcome Settings
  | none => .error .fileUnreadable
  | some text =>
    match ofToml? text with
    | some s => .ok s
    | none => .error .tomlSyntax

/-- Settings from a file; one that cannot be read or understood leaves every default. -/
def loadOrDefault (text? : Option String) : Settings :=
  match load text? with
  | .ok s => s
  | .error _ => {}

end Settings

end CourseReview
