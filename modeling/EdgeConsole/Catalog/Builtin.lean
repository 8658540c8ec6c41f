import EdgeConsole.Catalog.Definition
import EdgeConsole.Catalog.Kind

/-!
# The definitions of all kinds

Every kind has a definition. Items that belong to a version are told apart by name and can be
listed, fetched and deleted; so can services, tokens and users, which are told apart by id. Versions
have numbers and are never deleted.
-/

namespace EdgeConsole.Catalog

open Resource (VersionedKind)
open View (Column)

/-- The columns that most log endpoints end with. -/
def deliveryColumns : List Column :=
  [⟨"FORMAT", "format_version", 8⟩, ⟨"CONDITION", "response_condition", 16⟩]

/-- The columns of a kind that belongs to a version. -/
def versionedColumns (k : VersionedKind) : List Column :=
  ⟨"NAME", "name", if k = .domain then 40 else 24⟩ ::
    match k with
    | .backend =>
      [⟨"ADDRESS", "address", 32⟩, ⟨"PORT", "port", 6⟩, ⟨"SSL", "use_ssl", 6⟩,
       ⟨"HEALTHCHECK", "healthcheck", 16⟩, ⟨"SHIELD", "shield", 12⟩]
    | .director =>
      [⟨"TYPE", "type", 6⟩, ⟨"QUORUM", "quorum", 8⟩, ⟨"RETRIES", "retries", 8⟩,
       ⟨"BACKENDS", "backends", 10⟩]
    | .healthCheck =>
      [⟨"METHOD", "method", 8⟩, ⟨"HOST", "host", 28⟩, ⟨"PATH", "path", 24⟩,
       ⟨"EXPECT", "expected_response", 8⟩]
    | .domain => [⟨"COMMENT", "comment", 40⟩]
    | .condition =>
      [⟨"TYPE", "type", 10⟩, ⟨"PRIORITY", "priority", 9⟩, ⟨"STATEMENT", "statement", 48⟩]
    | .bigQuery =>
      [⟨"PROJECT", "project_id", 20⟩, ⟨"DATASET", "dataset", 16⟩, ⟨"TABLE", "table", 16⟩] ++
        deliveryColumns
    | .cloudfiles =>
      [⟨"BUCKET", "bucket_name", 20⟩, ⟨"REGION", "region", 8⟩, ⟨"PERIOD", "period", 8⟩] ++
        deliveryColumns
    | .ftp =>
      [⟨"ADDRESS", "address", 28⟩, ⟨"PORT", "port", 6⟩, ⟨"PATH", "path", 20⟩] ++ deliveryColumns
    | .gcs =>
      [⟨"BUCKET", "bucket_name", 24⟩, ⟨"PATH", "path", 20⟩, ⟨"PERIOD", "period", 8⟩] ++
        deliveryColumns
    | .logentries => [⟨"PORT", "port", 6⟩, ⟨"TLS", "use_tls", 6⟩] ++ deliveryColumns
    | .loggly => deliveryColumns
    | .papertrail => [⟨"ADDRESS", "address", 28⟩, ⟨"PORT", "port", 6⟩] ++ deliveryColumns
    | .s3 =>
      [⟨"BUCKET", "bucket_name", 24⟩, ⟨"PATH", "path", 20⟩, ⟨"PERIOD", "period", 8⟩,
       ⟨"GZIP", "gzip_level", 6⟩] ++ deliveryColumns
    | .splunk => ⟨"URL", "url", 48⟩ :: deliveryColumns
    | .sumologic => ⟨"URL", "url", 48⟩ :: deliveryColumns
    | .syslog =>
      [⟨"ADDRESS", "address", 28⟩, ⟨"PORT", "port", 6⟩, ⟨"TLS", "use_tls", 6⟩] ++ deliveryColumns

/-- The name for people of a kind that belongs to a version. -/
def versionedName : VersionedKind → String
  | .backend => "Backends"
  | .director => "Directors"
  | .healthCheck => "Health Checks"
  | .domain => "Domains"
  | .condition => "Conditions"
  | .bigQuery => "BigQuery Logging"
  | .cloudfiles => "Cloud Files Logging"
  | .ftp => "FTP Logging"
  | .gcs => "Google Cloud Storage Logging"
  | .logentries => "Logentries Logging"
  | .loggly => "Loggly Logging"
  | .papertrail => "Papertrail Logging"
  | .s3 => "Amazon S3 Logging"
  | .splunk => "Splunk Logging"
  | .sumologic => "Sumo Logic Logging"
  | .syslog => "Syslog Logging"

/-- The actions of all kinds but versions. -/
def fullActions : List Action := [.list, .get, .delete]

/-- The definition of a kind. -/
def Kind.definition : Kind → Definition
  | .services =>
    ⟨"Services", .account, "id", fullActions,
      [⟨"ID", "id", 24⟩, ⟨"NAME", "name", 32⟩, ⟨"ACTIVE", "version", 8⟩,
       ⟨"UPDATED", "updated_at", 12⟩]⟩
  | .versions =>
    ⟨"Versions", .service, "number", [.list, .get],
      [⟨"NUMBER", "number", 8⟩, ⟨"ACTIVE", "active", 8⟩, ⟨"LOCKED", "locked", 8⟩,
       ⟨"COMMENT", "comment", 40⟩, ⟨"UPDATED", "updated_at", 12⟩]⟩
  | .tokens =>
    ⟨"API Tokens", .account, "id", fullActions,
      [⟨"ID", "id", 24⟩, ⟨"NAME", "name", 24⟩, ⟨"SCOPE", "scope", 16⟩,
       ⟨"SERVICES", "services", 10⟩, ⟨"EXPIRES", "expires_at", 12⟩]⟩
  | .users =>
    ⟨"Users", .customer, "id", fullActions,
      [⟨"ID", "id", 24⟩, ⟨"LOGIN", "login", 32⟩, ⟨"NAME", "name", 24⟩, ⟨"ROLE", "role", 12⟩]⟩
  | .versioned k => ⟨versionedName k, .versioned, "name", fullActions, versionedColumns k⟩

/-- The kinds that belong to a version, in the order of their keys. -/
def versionedKinds : List Kind :=
  Kind.all.filter (·.definition.scope = .versioned)

/-- The keys of the kinds that belong to a version, in ascending order. -/
def versionedKeys : List String := versionedKinds.map Kind.key

end EdgeConsole.Catalog
