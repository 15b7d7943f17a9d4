import Mathlib.Data.Rat.Defs
import Mathlib.Logic.Function.Basic
import SreAgent.Config
import SreAgent.Lib.Base64

/-!
# Outbound credentials

The half of `auth.py` that turns a registry entry into a configured `ApiClient`. The cloud SDKs and
the kubeconfig loaders are not part of the repository; `Sdk` is what the code takes from them. A
bearer token carries the instant it was minted at: for EKS that is the date inside the presigned
URL the token encodes.

Every mode of `build_kube_config` ends in a client whose token was written into it once. Nothing in
the client knows when that was, which is why the token carries the instant in the model: the
question how old a credential is can be asked of the client alone, without the caches it went
through.
-/

namespace SreAgent

structure BearerToken where
  text     : String
  mintedAt : ℚ
  deriving DecidableEq

/-- `kubernetes.client.ApiClient`. The default header `Authorization: Bearer ..` is kept as the
token it carries; the client sends it with every request. -/
structure ApiClient where
  host          : String := ""
  sslCaCert     : String := ""
  authorization : Option BearerToken := none
  deriving DecidableEq

/-- The SDK calls `build_kube_config` makes; any of them may raise. -/
structure Sdk where
  presignedUrl          : (clusterName : String) → (now : ℚ) → Except Exc String
  workloadIdentityToken : ClusterAuth → (now : ℚ) → Except Exc String
  incluster             : Except Exc ApiClient
  kubeconfig            : (configFile context : String) → Except Exc ApiClient

/-- `_eks_token_cache`: EKS cluster name to (expiry, token). -/
abbrev TokenCache := String → Option (ℚ × BearerToken)

/-- The token EKS accepts for a presigned `GetCallerIdentity` URL. -/
def eksTokenText (url : String) : String :=
  "k8s-aws-v1." ++ String.ofList (Py.rstrip '=' (Base64.urlsafeEncode url.toUTF8.toList))

/-- The part of `_eks_token` after its cache: mint a token and keep it for fourteen minutes. -/
def mintEksToken (sdk : Sdk) (cache : TokenCache) (name : String) (now : ℚ) :
    Except Exc BearerToken × TokenCache :=
  match sdk.presignedUrl name now with
  | .error e => (.error e, cache)
  | .ok url  =>
    let token : BearerToken := ⟨eksTokenText url, now⟩
    (.ok token, Function.update cache name (some (now + 14 * 60, token)))

/-- `_eks_token`: the cached token while it has not expired, else a new one. -/
def eksToken (sdk : Sdk) (cache : TokenCache) (cluster : ClusterConfig) (now : ℚ) :
    Except Exc BearerToken × TokenCache :=
  let name := cluster.auth.clusterName
  match cache name with
  | some (expiry, cached) =>
    -- the comparison is strict: at the very instant it expires a token is replaced
    if expiry > now then (.ok cached, cache) else mintEksToken sdk cache name now
  | none => mintEksToken sdk cache name now

/-- `build_kube_config`, by the mode of the entry. Only an EKS cluster goes through the token cache;
the other modes mint or load afresh and leave the cache as it is. -/
def buildKubeConfig (sdk : Sdk) (cache : TokenCache) (cluster : ClusterConfig) (now : ℚ) :
    Except Exc ApiClient × TokenCache :=
  let withToken (token : BearerToken) : ApiClient :=
    { host := cluster.auth.server
      sslCaCert := "/etc/k8s-sre-agent/ca/" ++ cluster.name ++ ".crt"
      authorization := some token }
  match cluster.auth.mode with
  | .inCluster     => (sdk.incluster, cache)
  | .kubeconfig    => (sdk.kubeconfig cluster.auth.kubeconfig cluster.auth.context, cache)
  | .azureWorkload =>
    ((sdk.workloadIdentityToken cluster.auth now).map fun t => withToken ⟨t, now⟩, cache)
  | .awsEks        =>
    let (token, cache) := eksToken sdk cache cluster now
    (token.map withToken, cache)
  | .oidcExec      => (sdk.kubeconfig "" cluster.auth.context, cache)

end SreAgent
