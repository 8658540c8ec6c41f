import EdgeConsole.Resource.Field

/-!
# Delivery resources

The settings of the resources that decide how requests are answered: backends, directors,
conditions, health checks and domains.
-/

namespace EdgeConsole.Resource

open Record (FieldSpec)

/-- A backend: an origin that content is fetched from. Its host name follows from its address. -/
def backendSettings : List (FieldSpec Scalar) :=
  [setting "comment" .text, setting "address" .text, setting "port" .number,
   setting "override_host" .text, setting "connect_timeout" .number, setting "max_conn" .number,
   setting "error_threshold" .number, setting "first_byte_timeout" .number,
   setting "between_bytes_timeout" .number, setting "auto_loadbalance" .flag,
   setting "weight" .number, setting "request_condition" .text, setting "healthcheck" .text,
   shown "hostname" .text, setting "shield" .text, setting "use_ssl" .flag,
   setting "ssl_check_cert" .flag, setting "ssl_ca_cert" .text, setting "ssl_client_cert" .text,
   setting "ssl_client_key" .text, setting "ssl_hostname" .text, setting "ssl_cert_hostname" .text,
   setting "ssl_sni_hostname" .text, setting "min_tls_version" .text,
   setting "max_tls_version" .text, setting "ssl_ciphers" .text]

/-- A director: a group of backends among which requests are spread. -/
def directorSettings : List (FieldSpec Scalar) :=
  [setting "comment" .text, setting "shield" .text, setting "quorum" .number,
   setting "type" .directorType, setting "retries" .number, shown "capacity" .number,
   textList "backends"]

/-- A condition: an expression that decides when another resource applies. -/
def conditionSettings : List (FieldSpec Scalar) :=
  [setting "comment" .text, setting "statement" .text, setting "type" .conditionType,
   setting "priority" .number]

/-- A health check: a request sent to backends now and then. -/
def healthCheckSettings : List (FieldSpec Scalar) :=
  [setting "comment" .text, setting "method" .text, setting "host" .text, setting "path" .text,
   setting "http_version" .text, setting "timeout" .number, setting "check_interval" .number,
   setting "expected_response" .number, setting "window" .number, setting "threshold" .number,
   setting "initial" .number]

/-- A domain: a host name that a service answers for. -/
def domainSettings : List (FieldSpec Scalar) :=
  [setting "comment" .text]

end EdgeConsole.Resource
