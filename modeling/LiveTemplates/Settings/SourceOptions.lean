import LiveTemplates.Settings.Coercion
import LiveTemplates.Text.Lowercase

/-!
# How settings are looked for

Arguments under names of their own say where the settings come from: how the names of variables are
made and compared, which texts of variables count, and in which files and directories to look. They
are no settings themselves. An argument that is null says nothing, except that without files there
are none.

The names and what they stand for are those that pydantic-settings documents for the arguments of a
settings class:

* `_env_prefix` stands before the names of fields, unless `_env_prefix_target` puts it before others;
  `_case_sensitive` has names compared as they are.
* `_env_ignore_empty` passes over empty texts, and `_env_parse_none_str` is the text for no value.
* `_env_nested_delimiter` stands between a field and its member, as often as `_env_nested_max_split`
  allows.
* `_env_file` and `_env_file_encoding` say which files are read and how, `_secrets_dir` which
  directories.

The arguments for a command line are known and do nothing, for no settings are read from one.
-/

namespace LiveTemplates.Settings

/-- How settings are looked for. -/
structure SourceOptions where
  /-- What stands before a field's name in the name of its variable; nothing if that is no text. -/
  leading : Option String
  /-- Whether the case of names matters. -/
  caseSensitive : Bool
  /-- Whether a variable with an empty text is passed over. -/
  ignoreEmpty : Bool
  /-- The text that stands for no value. -/
  noneText : Option String
  /-- What stands between the names of a field and of its member in the name of a variable. -/
  delimiter : Option String
  /-- How often a name is split there at most. -/
  maxSplits : Option Nat
  /-- The files of variables: a path, or several. -/
  files : Json
  /-- The encoding of the files; a value that is no yes stands for UTF-8. -/
  encoding : Json
  /-- The directories with a file for the value of each field: a path, or several. -/
  directories : Json

namespace SourceOptions

/-- Names are made with some leading text, and variables are looked for in some files too. -/
def initial (leading : String) (files : Json) : SourceOptions where
  leading := some leading
  caseSensitive := false
  ignoreEmpty := false
  noneText := none
  delimiter := none
  maxSplits := none
  files := files
  encoding := .null
  directories := .null

/-- The names of the arguments that say where settings come from. Not all of them matter here. -/
def names : List String :=
  ["_case_sensitive", "_nested_model_default_partial_update", "_env_prefix", "_env_prefix_target",
    "_env_file", "_env_file_encoding", "_env_ignore_empty", "_env_nested_delimiter",
    "_env_nested_max_split", "_env_parse_none_str", "_env_parse_enums", "_cli_prog_name",
    "_cli_parse_args", "_cli_settings_source", "_cli_parse_none_str", "_cli_hide_none_type",
    "_cli_avoid_json", "_cli_enforce_required", "_cli_use_class_docs_for_groups",
    "_cli_exit_on_error", "_cli_prefix", "_cli_flag_prefix_char", "_cli_implicit_flags",
    "_cli_ignore_unknown_args", "_cli_kebab_case", "_cli_shortcuts", "_secrets_dir"]

/-- A text, if the value is one. -/
def text? : Json → Option String
  | .string s => some s
  | _ => none

/-- The number of splits that a number of parts asks for; zero and less ask for no limit. -/
def splits? : Json → Option Nat
  | .int n => if 0 < n then some (n.toNat - 1) else none
  | .bool b => if b then some 0 else none
  | _ => none

/-- The options with what arguments say. -/
def withArguments (arguments : List (String × Json)) (o : SourceOptions) : SourceOptions :=
  let given := fun name => (arguments.lookup name).bind fun v =>
    match v with
    | .null => none
    | v => some v
  let leading := match given "_env_prefix" with
    | some v => text? v
    | none => o.leading
  { leading :=
      match given "_env_prefix_target" with
      | none | some (.string "variable") | some (.string "all") => leading
      | some _ => some ""
    caseSensitive := ((given "_case_sensitive").map Json.isYes).getD o.caseSensitive
    ignoreEmpty := ((given "_env_ignore_empty").map Json.isYes).getD o.ignoreEmpty
    noneText := ((given "_env_parse_none_str").bind text?).or o.noneText
    delimiter := (((given "_env_nested_delimiter").bind text?).filter (· != "")).or o.delimiter
    maxSplits := ((given "_env_nested_max_split").bind splits?).or o.maxSplits
    files := (arguments.lookup "_env_file").getD o.files
    encoding := (given "_env_file_encoding").getD o.encoding
    directories := (given "_secrets_dir").getD o.directories }

/-- A name as it is compared. -/
def key (o : SourceOptions) (name : String) : String :=
  if o.caseSensitive then name else Text.lowercaseString name

end SourceOptions

end LiveTemplates.Settings
