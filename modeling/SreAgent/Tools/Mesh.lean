import SreAgent.Errors
import SreAgent.Kube
import SreAgent.Lib.Gather
import SreAgent.Lib.PyStr

/-!
# The mesh analysis

`analyze_mesh` of `tools/istio.py`. The objects come from the Kubernetes API as JSON: a map that is not
there reads as the empty one, and so does a list that is not there or null. A name, a host or a mode
may be missing or null, which `.get` with a default tells apart (`Scalar`).

The function takes four lists and returns one. It has four loops, for subsets, modes, gateways and
references, and each is modelled by itself. Only the first can raise: it sorts the names of subsets
for the text of a finding, and a subset without a name is `None`, which Python does not compare with
a string.
-/

namespace SreAgent.Tools

open Kube (Labels)

/-! ## Objects

Only what the analysis reads is kept. Names and hosts are `Scalar`s, since a key that is missing and
a key that is null are different to `.get` with a default: the first gives the default, the second
gives `None`. -/

inductive Scalar where
  | absent
  | null
  | text (s : String)
  deriving DecidableEq, Repr

/-- `m.get(key)`. -/
def Scalar.get : Scalar → Option String
  | .text s => some s
  | _       => none

/-- `m.get(key, default)`. -/
def Scalar.getD (default : String) : Scalar → Option String
  | .absent => some default
  | .null   => none
  | .text s => some s

structure Destination where
  host   : Scalar := .absent
  subset : Scalar := .absent
  deriving DecidableEq, Repr

/-- An entry of `spec.http`: the destinations of its routes. -/
structure HttpRule where
  route : List Destination := []
  deriving DecidableEq, Repr

structure VirtualService where
  name     : Scalar := .absent
  http     : List HttpRule := []
  gateways : List String := []
  deriving DecidableEq, Repr

/-- `subsets` are the names of the subsets, `tlsMode` is `trafficPolicy.tls.mode`. -/
structure DestinationRule where
  host    : Scalar := .absent
  subsets : List Scalar := []
  tlsMode : Scalar := .absent
  deriving DecidableEq, Repr

/-- `selector` has the fields of the workload selector, if any, and `mode` is `mtls.mode`. -/
structure PeerAuthentication where
  selector : List (String × Labels) := []
  mode     : Scalar := .absent
  deriving DecidableEq, Repr

/-- An Istio `Gateway`: `servers` are the hosts of each server. -/
structure MeshGateway where
  name    : Scalar := .absent
  servers : List (List String) := []
  deriving DecidableEq, Repr

def VirtualService.nameOr (vs : VirtualService) : Option String := vs.name.getD "?"

/-- The destinations of all its http routes. -/
def VirtualService.destinations (vs : VirtualService) : List Destination :=
  vs.http.flatMap HttpRule.route

def Destination.hostOr (d : Destination) : Option String := d.host.getD ""

def DestinationRule.hostOr (dr : DestinationRule) : Option String := dr.host.getD ""

def MeshGateway.nameOr (g : MeshGateway) : Option String := g.name.getD ""

def MeshGateway.hosts (g : MeshGateway) : List String := g.servers.flatten

/-! ## Findings

One constructor for each kind, with the fields of the source's dictionaries and the text of the
detail. -/

inductive Finding where
  | subsetNotDefined (virtualservice host : Option String) (subset detail : String)
  | mtlsModeConflict (host : Option String) (peerAuthMode destinationruleMode detail : String)
  | gatewayNoVirtualservice (gateway : Option String) (hosts : List String) (detail : String)
  | virtualserviceUnknownGateway (virtualservice : Option String) (gateway detail : String)
  deriving DecidableEq, Repr

/-! ## Dangling subsets

A route may ask for a subset of a host. It dangles if no rule for that host defines it, and the
detail then lists what is defined instead. -/

/-- `defined.get(host, set())`: the subsets of all the rules for the host. -/
def definedSubsets (drs : List DestinationRule) (host : Option String) : List (Option String) :=
  (drs.filter fun dr => dr.hostOr = host).flatMap fun dr => dr.subsets.map Scalar.get

/-- `sorted(names)` of a set. `None` does not compare to a string. -/
def sortedNames (names : List (Option String)) : Except Exc (List (Option String)) :=
  if names.contains none then
    -- one `None` by itself is sorted without a comparison
    if names.any Option.isSome then .error .typeError else .ok [none]
  else .ok ((Py.sortedSet names.reduceOption).map some)

/-- `{sorted(names) or 'none'}`. -/
def showNames (names : List (Option String)) : String :=
  if names.isEmpty then "none" else "[" ++ Py.join ", " (names.map Py.reprOpt) ++ "]"

def danglingSubset (name host : Option String) (subset : String) (names : List (Option String)) :
    Finding :=
  .subsetNotDefined name host subset
    (s!"VirtualService '{Py.showOpt name}' routes to subset '{subset}' on host " ++
      s!"'{Py.showOpt host}', but no DestinationRule defines that subset " ++
      s!"(defined: {showNames names}). Envoy will have no endpoints → 503 no healthy upstream.")

/-- One destination of a virtual service. -/
def checkDestination (drs : List DestinationRule) (name : Option String) (d : Destination) :
    Except Exc (List Finding) :=
  match d.subset.get with
  | none        => .ok []
  | some subset =>
    -- an empty subset is falsy, and means the whole host
    if subset = "" || (definedSubsets drs d.hostOr).contains (some subset) then .ok []
    else do
      let names ← sortedNames (definedSubsets drs d.hostOr)
      pure [danglingSubset name d.hostOr subset names]

def checkSubsets (vss : List VirtualService) (drs : List DestinationRule) :
    Except Exc (List Finding) :=
  Gather.gather (fun vs => Gather.gather (checkDestination drs vs.nameOr) vs.destinations) vss

/-! ## Conflicting modes

The mode of the namespace is read off the first policy without a workload selector. If that one does
not set a mode there is none, whatever the next one says. -/

def namespaceMtlsMode (pas : List PeerAuthentication) : Option String :=
  (pas.find? fun pa => pa.selector.isEmpty).bind fun pa => pa.mode.get

/-- What is wrong with a rule's mode under the mode of the namespace. -/
def modeConflict (nsMode drMode : String) (host : Option String) : Option String :=
  if nsMode = "STRICT" && ["DISABLE", "SIMPLE"].contains drMode then
    some ("PeerAuthentication requires STRICT mTLS for the namespace, but the " ++
      s!"DestinationRule for host '{Py.showOpt host}' sets tls.mode={drMode} (plaintext). " ++
      "Clients send plaintext to an mTLS-only server → 503 UC / connection reset.")
  else if nsMode = "DISABLE" && ["ISTIO_MUTUAL", "MUTUAL"].contains drMode then
    some (s!"DestinationRule for host '{Py.showOpt host}' forces mTLS (tls.mode={drMode}) but " ++
      "PeerAuthentication DISABLEs mTLS server-side → handshake fails → 503.")
  else none

def checkMode (nsMode : String) (dr : DestinationRule) : Option Finding :=
  dr.tlsMode.get.bind fun drMode =>
    (modeConflict nsMode drMode dr.hostOr).map (.mtlsModeConflict dr.hostOr nsMode drMode)

def checkModes (pas : List PeerAuthentication) (drs : List DestinationRule) : List Finding :=
  match namespaceMtlsMode pas with
  | none        => []
  -- the empty mode is falsy as well
  | some nsMode => if nsMode = "" then [] else drs.filterMap (checkMode nsMode)

/-! ## Gateways

A gateway that no virtual service refers to, and a reference to a gateway that is not there. Both
compare short names, so a qualifier is not looked at. -/

/-- `g.split("/")[-1]`. -/
def shortName (g : String) : String := String.ofList ((Py.splitOn '/' g.toList).getLastD [])

/-- The references of a virtual service to gateways: `mesh` is sidecar traffic. -/
def VirtualService.references (vs : VirtualService) : List String :=
  vs.gateways.filter fun g => g != "mesh"

def referenced (vss : List VirtualService) : List String :=
  vss.flatMap fun vs => vs.references.map shortName

def unboundGateway (g : MeshGateway) : Finding :=
  .gatewayNoVirtualservice g.nameOr g.hosts
    (s!"Gateway '{Py.showOpt g.nameOr}' (hosts {Py.reprList g.hosts}) has no VirtualService bound to it " ++
      "(no VirtualService lists it in spec.gateways). Requests reaching the " ++
      "ingress gateway for these hosts get 404 — nothing routes them.")

def checkGateways (vss : List VirtualService) (gws : List MeshGateway) : List Finding :=
  (gws.filter fun g => !((referenced vss).map some).contains g.nameOr).map unboundGateway

def unknownGateway (name : Option String) (g : String) : Finding :=
  .virtualserviceUnknownGateway name (shortName g)
    (s!"VirtualService '{Py.showOpt name}' binds to Gateway '{g}', which does not exist " ++
      "in the namespace. The route is never programmed at the edge → 404.")

def checkReferences (vss : List VirtualService) (gws : List MeshGateway) : List Finding :=
  vss.flatMap fun vs => (vs.references.filter fun g =>
    !(gws.map MeshGateway.nameOr).contains (some (shortName g))).map (unknownGateway vs.nameOr)

/-! ## The analysis

The findings in the order of the loops. If the first one raises, there are none. -/

def analyzeMesh (vss : List VirtualService) (drs : List DestinationRule)
    (pas : List PeerAuthentication) (gws : List MeshGateway) : Except Exc (List Finding) := do
  let dangling ← checkSubsets vss drs
  pure (dangling ++ checkModes pas drs ++ checkGateways vss gws ++ checkReferences vss gws)

end SreAgent.Tools
