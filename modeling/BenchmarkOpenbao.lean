import BenchmarkOpenbao.GoLibrary
import BenchmarkOpenbao.Json
import BenchmarkOpenbao.ApiClient
import BenchmarkOpenbao.TargetSecretKVV1
import BenchmarkOpenbao.TargetSecretKVV2
import BenchmarkOpenbao.ACLPolicy
import BenchmarkOpenbao.PolicyText
import BenchmarkOpenbao.TargetSysMount
import BenchmarkOpenbao.TargetSysNamespaces
import BenchmarkOpenbao.TargetSecretRedis
import BenchmarkOpenbao.Registry
