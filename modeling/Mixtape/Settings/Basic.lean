import Mixtape.Json.Reader
import Mixtape.Jobs.Runner
import Mixtape.Settings.Field
import Mixtape.Sorting
import Mixtape.Text.Order

/-!
# Settings

The settings come in groups. They are given as arguments and in the environment, where a name is
`GROUP__FIELD`; some fields also have a flat name among the arguments.

* `Settings.groups` — the groups, their fields and the values that hold when nothing is given.
* `Settings.fold` — flat names moved into their groups.
* `Settings.check` — the settings that arguments and environment give, or the places that are
  wrong.
* `Settings` — the settings that bear on the program's work.
-/

namespace Mixtape

namespace Settings

/-- A field of a group. -/
structure Field where
  /-- The name. -/
  name : String
  /-- What it may be. -/
  kind : FieldKind
  /-- The value that holds when none is given. -/
  preset : Json

/-- One tenth. -/
def tenth : Binary64 := .ofDecimal false 1 (-1)

/-- Thirty. -/
def thirty : Binary64 := .ofHalves 60

/-- The groups and their fields. -/
def groups : List (String × List Field) :=
  [("database",
      [⟨"url", .text, .text "sqlite+aiosqlite:///data/db/smartlists.db"⟩,
        ⟨"echo", .flag, .bool false⟩]),
    ("logging",
      [⟨"console_level", .text, .text "INFO"⟩, ⟨"file_level", .text, .text "DEBUG"⟩,
        ⟨"log_file", .path, .text "data/logs/smartlists.log"⟩,
        ⟨"real_time_debug", .flag, .bool true⟩]),
    ("credentials",
      [⟨"spotify_client_id", .text, .text ""⟩, ⟨"spotify_client_secret", .text, .text ""⟩,
        ⟨"spotify_redirect_uri", .text, .text "http://localhost:8888/callback"⟩,
        ⟨"spotify_cache_path", .path, .text ".spotify_cache"⟩]),
    ("api",
      [⟨"spotify_write_chunk_size", .whole, .int 100⟩,
        ⟨"spotify_read_page_size", .whole, .int 100⟩,
        ⟨"spotify_liked_page_size", .whole, .int 50⟩,
        ⟨"spotify_chunk_delay", .number, .real tenth⟩,
        ⟨"spotify_request_timeout", .number, .real thirty⟩,
        ⟨"spotify_retry_count", .whole, .int 3⟩,
        ⟨"spotify_retry_max_delay", .number, .real thirty⟩,
        ⟨"audio_features_batch_size", .whole, .int 40⟩,
        ⟨"audio_features_delay", .number, .real tenth⟩]),
    ("sync",
      [⟨"playlist_name_prefix", .text, .text "[Smartlists]"⟩,
        ⟨"default_description", .text, .text "Smart playlist synced from Smartlists"⟩,
        ⟨"max_playlist_tracks", .whole, .int 10000⟩,
        ⟨"conflict_policy", .choice ["join", "reject"], .text "join"⟩,
        ⟨"scheduled_playlist_delay", .number, .real tenth⟩,
        ⟨"mirror_chunk_size", .whole, .int 100⟩])]

/-- The fields outside the groups. -/
def looseFields : List Field := [⟨"data_dir", .path, .text "data"⟩]

/-! ### Flat names -/

/-- The flat names: each with its group and field. -/
def flatNames : List (String × String × String) :=
  [("database_url", "database", "url"), ("database_echo", "database", "echo"),
    ("console_log_level", "logging", "console_level"), ("file_log_level", "logging", "file_level"),
    ("log_file", "logging", "log_file"), ("log_real_time_debug", "logging", "real_time_debug"),
    ("spotify_client_id", "credentials", "spotify_client_id"),
    ("spotify_client_secret", "credentials", "spotify_client_secret"),
    ("spotify_redirect_uri", "credentials", "spotify_redirect_uri")]

/-- Removes the fields with a key. -/
def dropField (key : String) (fields : List (String × Json)) : List (String × Json) :=
  fields.filter (·.1 ≠ key)

/-- Moves one flat name into its group; a group that is no object takes nothing in. -/
def foldName (fields : List (String × Json)) (flat : String × String × String) :
    List (String × Json) :=
  let (name, group, field) := flat
  match Json.lookupField name fields with
  | none => fields
  | some value =>
    match (Json.lookupField group fields).getD (.object []) with
    | .object inner =>
      Json.putField group (.object (Json.putField field value inner)) (dropField name fields)
    | _ => fields

/-- Moves all flat names into their groups. -/
def fold (j : Json) : Json :=
  match j with
  | .object fields => .object (flatNames.foldl foldName fields)
  | j => j

/-! ### The environment -/

/-- Merges fields into others: objects field by field, what is merged in taking precedence. The
fuel is the depth of nesting. -/
def mergeFields : (fuel : Nat) → (base extra : List (String × Json)) → List (String × Json)
  | 0, _, extra => extra
  | fuel + 1, base, extra =>
    extra.foldl (fun fields (key, value) =>
      match Json.lookupField key fields, value with
      | some (.object a), .object b => Json.putField key (.object (mergeFields fuel a b)) fields
      | _, _ => Json.putField key value fields) base

/-- How deep settings are nested at most. -/
def maxDepth : Nat := 100

/-- Sets a value below nested names; a value that is no object on the way stays. -/
def putNested : (path : List String) → (value : Json) → List (String × Json) →
    List (String × Json)
  | [], _, fields => fields
  | [key], value, fields => Json.putField key value fields
  | key :: rest, value, fields =>
    match (Json.lookupField key fields).getD (.object []) with
    | .object inner => Json.putField key (.object (putNested rest value inner)) fields
    | _ => fields

/-- The parts of a name between double underscores. -/
def nameParts : (done : List Char) → List Char → List String
  | done, [] => [String.ofList done.reverse]
  | done, '_' :: '_' :: rest => String.ofList done.reverse :: nameParts [] rest
  | done, c :: rest => nameParts (c :: done) rest

/-- The fields of a group that the environment sets. -/
def groupFromEnvironment (group : String) (env : List (String × String)) : List (String × Json) :=
  env.foldl (fun fields (name, value) =>
    match nameParts [] name.toList with
    | head :: path => if head = group then putNested path (.text value) fields else fields
    | [] => fields) []

/-- The fields of a group, their names spelt as the group spells them in whatever case they are
given. -/
def spelt (known : List Field) (given : List (String × Json)) : List (String × Json) :=
  given.foldl (fun fields (key, value) =>
    match known.find? fun f => f.name == Text.lower key with
    | some f => Json.putField f.name value fields
    | none => Json.putField key value fields) []

/-- The value of a group in the environment: a document under its own name, with the nested names
merged in; null sets nothing. -/
def groupValue? (group : String) (known : List Field) (env : List (String × String)) :
    Except Failure (Option Json) :=
  let nested := groupFromEnvironment group env
  match Registry.find? group env with
  | some source =>
    match Json.read source with
    | .ok (.object fields) =>
      .ok (some (.object (spelt known (mergeFields maxDepth fields nested))))
    | .ok .null => .ok none
    | .ok j => .ok (some j)
    | .error _ => .error .unreadable
  | none => .ok (if nested.isEmpty then none else some (.object nested))

/-- What the environment sets; names do not distinguish case. -/
def fromEnvironment (env : List (String × String)) : Except Failure (List (String × Json)) := do
  let env := env.foldl (fun r (name, value) => Registry.put (Text.lower name) value r) []
  let values ← groups.mapM fun (group, known) => do
    return (group, ← groupValue? group known env)
  return values.filterMap (fun (group, v) => v.map fun v => (group, v))
    ++ looseFields.filterMap fun f => (Registry.find? f.name env).map fun v => (f.name, .text v)

/-! ### Checking -/

/-- A field's setting among the given fields, or the name of the field if it is wrong. -/
def Field.check (f : Field) (given : List (String × Json)) : Except String Json :=
  match Json.lookupField f.name given with
  | none => .ok f.preset
  | some value => (f.kind.accept? value).elim (.error f.name) .ok

/-- The checked settings, or all places that are wrong. -/
def gather (results : List (String × Except (List String) Json)) : Except (List String) Json :=
  let wrong := results.flatMap fun r => match r.2 with | .ok _ => [] | .error places => places
  if wrong.isEmpty then
    .ok (.object (results.filterMap fun (name, r) => r.toOption.map fun v => (name, v)))
  else .error wrong

/-- The checked fields; `place` names the group in front of a field that is wrong. -/
def checkFields (place : String) (fields : List Field) (given : List (String × Json)) :
    List (String × Except (List String) Json) :=
  fields.map fun f => (f.name, (f.check given).mapError fun name => [place ++ name])

/-- The checked settings of a group. -/
def checkGroup (group : String) (fields : List Field) (given : Option Json) :
    Except (List String) Json :=
  match given.getD (.object []) with
  | .object inner => gather (checkFields (group ++ ".") fields inner)
  | _ => .error [group]

/-- The settings that fields in groups give, or all places that are wrong. -/
def checkAll (given : List (String × Json)) : Except (List String) Json :=
  gather
    (groups.map (fun (group, fields) =>
        (group, checkGroup group fields (Json.lookupField group given)))
      ++ checkFields "" looseFields given)

/-- Gives an argument its exact name, if no other argument has it and one has it in another case. -/
def nameExactly (arguments : List (String × Json)) (name : String) : List (String × Json) :=
  if (Json.lookupField name arguments).isSome then arguments
  else
    match arguments.find? fun a => Text.lower a.1 == name with
    | some (given, value) => Json.putField name value (dropField given arguments)
    | none => arguments

/-- Arguments under their exact names; the names of groups do not distinguish case. -/
def named (arguments : List (String × Json)) : List (String × Json) :=
  (groups.map (·.1) ++ looseFields.map (·.name)).foldl nameExactly arguments

/-- The settings that arguments and environment give, arguments taking precedence, or all places
that are wrong, in the order of their names; a failure if the environment cannot be read. -/
def check (arguments : List (String × Json)) (env : List (String × String)) :
    Except Failure (Except (List String) Json) := do
  let merged := mergeFields maxDepth (← fromEnvironment env) (named arguments)
  return (checkAll (flatNames.foldl foldName merged)).mapError (sortBy Text.leText)

/-- The settings that hold when nothing is given. -/
def presets : Json :=
  .object
    (groups.map (fun (group, fields) => (group, .object (fields.map fun f => (f.name, f.preset))))
      ++ looseFields.map fun f => (f.name, f.preset))

end Settings

/-- The settings that bear on the program's work. -/
structure Settings where
  /-- What the names of outward copies begin with. -/
  namePrefix : String := "[Smartlists]"
  /-- The description of outward copies without one of their own. -/
  description : String := "Smart playlist synced from Smartlists"
  /-- The most tracks of an outward copy. -/
  maxTracks : Int := 10000
  /-- What is done with a job for a busy target. -/
  policy : ConflictPolicy := .join
  /-- Seconds between two playlists. -/
  playlistDelay : Amount := .ofTenths 1
  /-- The most items of a local chunk. -/
  localChunk : Int := 100
  /-- The most items of a written chunk. -/
  writeChunk : Int := 100
  /-- The most entries of a page of a playlist. -/
  readPage : Int := 100
  /-- The most entries of a page of liked tracks. -/
  likedPage : Int := 50
  /-- Seconds between two written chunks. -/
  chunkDelay : Amount := .ofTenths 1
  /-- Seconds a written chunk may take. -/
  timeout : Amount := .ofTenths 300
  /-- How often a read is tried, if the number is positive. -/
  tries : Int := 3
  /-- Seconds within which a read is tried again. -/
  retrySpan : Amount := .ofTenths 300
  /-- The most tracks of one lookup of audio features. -/
  featureBatch : Int := 40
  /-- Seconds between two lookups. -/
  featureDelay : Amount := .ofTenths 1
  deriving DecidableEq

namespace Settings

/-- The settings a document of settings holds; a field of another kind holds its preset. -/
def ofJson (j : Json) : Settings :=
  let preset : Settings := {}
  let sync (key : String) := (j.get "sync").get key
  let api (key : String) := (j.get "api").get key
  { namePrefix := (sync "playlist_name_prefix").text?.getD preset.namePrefix
    description := (sync "default_description").text?.getD preset.description
    maxTracks := (sync "max_playlist_tracks").intOr preset.maxTracks
    policy := ((sync "conflict_policy").text?.bind ConflictPolicy.ofName?).getD preset.policy
    playlistDelay := (sync "scheduled_playlist_delay").amount?.getD preset.playlistDelay
    localChunk := (sync "mirror_chunk_size").intOr preset.localChunk
    writeChunk := (api "spotify_write_chunk_size").intOr preset.writeChunk
    readPage := (api "spotify_read_page_size").intOr preset.readPage
    likedPage := (api "spotify_liked_page_size").intOr preset.likedPage
    chunkDelay := (api "spotify_chunk_delay").amount?.getD preset.chunkDelay
    timeout := (api "spotify_request_timeout").amount?.getD preset.timeout
    tries := (api "spotify_retry_count").intOr preset.tries
    retrySpan := (api "spotify_retry_max_delay").amount?.getD preset.retrySpan
    featureBatch := (api "audio_features_batch_size").intOr preset.featureBatch
    featureDelay := (api "audio_features_delay").amount?.getD preset.featureDelay }

/-- The settings with single fields set, each named by group and field with a point between. -/
def ofFields (fields : List (String × Json)) : Settings :=
  let put (j : Json) (entry : String × Json) : Json :=
    match (Text.splitAt '.' entry.1.toList).map String.ofList with
    | [group, field] => j.put group ((j.get group).put field entry.2)
    | _ => j
  ofJson (fields.foldl put presets)

/-- How often a read is begun anew; without a limit on the tries, `patience` is one. -/
def retries (s : Settings) (patience : Nat) : Nat :=
  if s.retrySpan.units ≤ 0 then 0
  else if s.tries ≤ 0 then patience
  else s.tries.toNat - 1

end Settings

end Mixtape
