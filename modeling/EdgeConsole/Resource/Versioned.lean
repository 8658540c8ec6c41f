import EdgeConsole.Resource.Delivery
import EdgeConsole.Resource.Logging

/-!
# Resources of a service version

Sixteen kinds of resources belong to a version of a service. Each has the key by which a user asks
for it, the path segment under which the service keeps it, and the description of its record, which
starts with its service, version and name and ends with its times.
-/

namespace EdgeConsole.Resource

open Record (FieldSpec Schema)

/-- A kind of resource that belongs to a version of a service. -/
inductive VersionedKind
  | backend
  | director
  | healthCheck
  | domain
  | condition
  | bigQuery
  | cloudfiles
  | ftp
  | gcs
  | logentries
  | loggly
  | papertrail
  | s3
  | splunk
  | sumologic
  | syslog
deriving DecidableEq, Repr

namespace VersionedKind

/-- All kinds, in the order of their keys. -/
def all : List VersionedKind :=
  [.backend, .condition, .director, .domain, .healthCheck, .bigQuery, .cloudfiles, .ftp, .gcs,
   .logentries, .loggly, .papertrail, .s3, .splunk, .sumologic, .syslog]

/-- The key by which a user asks for the kind. -/
def key : VersionedKind → String
  | .backend => "backends"
  | .director => "directors"
  | .healthCheck => "healthchecks"
  | .domain => "domains"
  | .condition => "conditions"
  | .bigQuery => "logging-bigquery"
  | .cloudfiles => "logging-cloudfiles"
  | .ftp => "logging-ftp"
  | .gcs => "logging-gcs"
  | .logentries => "logging-logentries"
  | .loggly => "logging-loggly"
  | .papertrail => "logging-papertrail"
  | .s3 => "logging-s3"
  | .splunk => "logging-splunk"
  | .sumologic => "logging-sumologic"
  | .syslog => "logging-syslog"

/-- The path of the kind below a version. -/
def segment : VersionedKind → String
  | .backend => "backend"
  | .director => "director"
  | .healthCheck => "healthcheck"
  | .domain => "domain"
  | .condition => "condition"
  | .bigQuery => "logging/bigquery"
  | .cloudfiles => "logging/cloudfiles"
  | .ftp => "logging/ftp"
  | .gcs => "logging/gcs"
  | .logentries => "logging/logentries"
  | .loggly => "logging/loggly"
  | .papertrail => "logging/papertrail"
  | .s3 => "logging/s3"
  | .splunk => "logging/splunk"
  | .sumologic => "logging/sumologic"
  | .syslog => "logging/syslog"

/-- The name of the kind's record. -/
def title : VersionedKind → String
  | .backend => "Backend"
  | .director => "Director"
  | .healthCheck => "HealthCheck"
  | .domain => "Domain"
  | .condition => "Condition"
  | .bigQuery => "BigQuery"
  | .cloudfiles => "Cloudfiles"
  | .ftp => "Ftp"
  | .gcs => "Gcs"
  | .logentries => "Logentries"
  | .loggly => "Loggly"
  | .papertrail => "Papertrail"
  | .s3 => "S3"
  | .splunk => "Splunk"
  | .sumologic => "Sumologic"
  | .syslog => "Syslog"

/-- The settings of the kind. -/
def settings : VersionedKind → List (FieldSpec Scalar)
  | .backend => backendSettings
  | .director => directorSettings
  | .healthCheck => healthCheckSettings
  | .domain => domainSettings
  | .condition => conditionSettings
  | .bigQuery => bigQuerySettings
  | .cloudfiles => cloudfilesSettings
  | .ftp => ftpSettings
  | .gcs => gcsSettings
  | .logentries => logentriesSettings
  | .loggly => logglySettings
  | .papertrail => papertrailSettings
  | .s3 => s3Settings
  | .splunk => splunkSettings
  | .sumologic => sumologicSettings
  | .syslog => syslogSettings

/-- The description of the kind's record. -/
def schema (k : VersionedKind) : Schema Scalar :=
  ⟨k.title,
    weakText "service_id" :: weakNumber "version" :: weakText "name" :: (k.settings ++ stamps)⟩

/-- The kind that a user's key asks for. -/
def ofKey? (key : String) : Option VersionedKind :=
  all.find? (·.key == key)

/-- A resource of the kind. -/
abbrev Item (k : VersionedKind) : Type := k.schema.Value

/-- The name of a resource. -/
def name {k : VersionedKind} : k.Item → String
  | .cons _ (.cons _ (.cons n _)) => n

/-- New values for settings of a resource. -/
abbrev Changes (k : VersionedKind) : Type := Patch k.settings

end VersionedKind

end EdgeConsole.Resource
