import EdgeConsole.Resource.Field

/-!
# Logging endpoints

The settings of the destinations that log lines are sent to. All of them end in the format of the
line, the version of that format, the condition that gates the line and its placement.
-/

namespace EdgeConsole.Resource

open Record (FieldSpec)

/-- The settings that every destination has. -/
def lineSettings : List (FieldSpec Scalar) :=
  [setting "format" .text, setting "format_version" .number, setting "response_condition" .text,
   setting "placement" .text]

def bigQuerySettings : List (FieldSpec Scalar) :=
  [setting "user" .text, setting "project_id" .text, setting "dataset" .text, setting "table" .text,
   setting "template_suffix" .text, setting "secret_key" .text] ++ lineSettings

def cloudfilesSettings : List (FieldSpec Scalar) :=
  [setting "user" .text, setting "access_key" .text, setting "bucket_name" .text,
   setting "path" .text, setting "region" .text, setting "period" .number,
   setting "gzip_level" .number, setting "message_type" .text, setting "timestamp_format" .text,
   setting "public_key" .text] ++ lineSettings

def ftpSettings : List (FieldSpec Scalar) :=
  [setting "address" .text, setting "port" .number, setting "username" .text,
   setting "password" .text, setting "public_key" .text, setting "path" .text,
   setting "period" .number, setting "gzip_level" .number, setting "timestamp_format" .text] ++
    lineSettings

def gcsSettings : List (FieldSpec Scalar) :=
  [setting "user" .text, setting "bucket_name" .text, setting "secret_key" .text,
   setting "path" .text, setting "period" .number, setting "gzip_level" .number,
   setting "message_type" .text, setting "timestamp_format" .text] ++ lineSettings

def logentriesSettings : List (FieldSpec Scalar) :=
  [setting "port" .number, setting "use_tls" .flag, setting "token" .text] ++ lineSettings

def logglySettings : List (FieldSpec Scalar) :=
  [setting "token" .text] ++ lineSettings

def papertrailSettings : List (FieldSpec Scalar) :=
  [setting "address" .text, setting "port" .number] ++ lineSettings

def s3Settings : List (FieldSpec Scalar) :=
  [setting "bucket_name" .text, setting "domain" .text, setting "access_key" .text,
   setting "secret_key" .text, setting "path" .text, setting "period" .number,
   setting "gzip_level" .number, setting "message_type" .text, setting "redundancy" .redundancy,
   setting "timestamp_format" .text, setting "public_key" .text,
   setting "server_side_encryption" .text, setting "server_side_encryption_kms_key_id" .text] ++
    lineSettings

def splunkSettings : List (FieldSpec Scalar) :=
  [setting "url" .text, setting "token" .text, setting "tls_ca_cert" .text,
   setting "tls_hostname" .text] ++ lineSettings

def sumologicSettings : List (FieldSpec Scalar) :=
  [setting "url" .text, setting "message_type" .text] ++ lineSettings

def syslogSettings : List (FieldSpec Scalar) :=
  [setting "address" .text, setting "hostname" .text, setting "port" .number,
   setting "use_tls" .flag, setting "ipv4" .text, setting "tls_ca_cert" .text,
   setting "tls_hostname" .text, setting "token" .text, setting "message_type" .text] ++
    lineSettings

end EdgeConsole.Resource
