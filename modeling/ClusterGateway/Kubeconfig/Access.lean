import ClusterGateway.Context.Basic
import ClusterGateway.Failure
import ClusterGateway.Files
import ClusterGateway.Kubeconfig.Basic
import ClusterGateway.Text.Utf8
import ClusterGateway.Token.Base64
import ClusterGateway.Uri.Target

/-!
# From a kubeconfig file to a cluster

A context is selected by name, the one asked for or the current one, and leads to the address of
a server. After that the address, the certificates, the proxy and the credentials have to be
usable, in this order.
-/

namespace ClusterGateway

inductive Credentials where
  | anonymous
  | basic (username password : String)
  | bearer (token : String)
  deriving DecidableEq, Repr

def Credentials.header? : Credentials → Option String
  | anonymous => none
  | basic username password =>
    some ("Basic " ++ String.ofList (Base64.encode (Text.Utf8.encode s!"{username}:{password}")))
  | bearer token => some s!"Bearer {token}"

structure ClusterAccess where
  server : String
  credentials : Credentials
  deriving DecidableEq, Repr

namespace Kubeconfig

inductive AccessError where
  | unreadable (path why : String)
  | noContext
  | contextNotFound (name : String)
  | noCluster
  | clusterNotFound (name : String)
  | noServer
  | badConfig (why : String)
  | badClient (why : String)
  | notInCluster (why : String)
  deriving DecidableEq, Repr

def AccessError.message : AccessError → String
  | unreadable path why => s!"Failed to read kubeconfig {path}: {why}"
  | noContext => "No context specified and no current-context"
  | contextNotFound name => s!"Context '{name}' not found"
  | noCluster => "Context has no cluster reference"
  | clusterNotFound name => s!"Cluster '{name}' not found"
  | noServer => "Cluster has no server URL"
  | badConfig why => s!"Failed to create config: {why}"
  | badClient why => s!"Failed to create client: {why}"
  | notInCluster why => s!"Failed to get in-cluster config: {why}"

def AccessError.failure (e : AccessError) : Failure := .connection e.message

def filesNamed (k : Kubeconfig) : List String :=
  (k.clusters.flatMap fun n => (n.content.bind Cluster.authorityFile).toList) ++
    k.users.flatMap fun n => n.content.toList.flatMap fun u =>
      u.tokenFile.toList ++ u.certificateFile.toList ++ u.keyFile.toList

def find? (entries : List (Named α)) (name : String) : Option (Named α) :=
  entries.find? fun n => n.name == name

/-! ## Reading and selecting -/

def withoutMark : List UInt8 → List UInt8
  | 0xEF :: 0xBB :: 0xBF :: rest => rest
  | bytes => bytes

def read (files : Files) (path : String) : Except AccessError Kubeconfig :=
  match files path with
  | .error e => .error (.unreadable path e.message)
  | .ok bytes =>
    match (Text.Utf8.decode? (withoutMark bytes)).bind parse? with
    | some k => .ok k
    | none => .error (.unreadable path "not a kubeconfig")

structure Selection where
  cluster : Cluster
  server : String
  user : Option User

def select (k : Kubeconfig) (context : Option String) : Except AccessError Selection := do
  let some name := context <|> k.currentContext | .error .noContext
  let some named := find? k.contexts name | .error (.contextNotFound name)
  let some c := named.content | .error .noCluster
  let some entry := find? k.clusters c.cluster | .error (.clusterNotFound c.cluster)
  let some cluster := entry.content | .error .noServer
  let some server := cluster.server | .error .noServer
  return ⟨cluster, server, (c.user.bind (find? k.users)).bind Named.content⟩

/-! ## Checks -/

/-- Content given in place, or in a file that is looked for beside the kubeconfig. -/
def content? (files : Files) (directory : String) (data file : Option String) : Option (List UInt8) :=
  match data, file with
  | some data, _ => Base64.decode? data.toList
  | none, some file => (files (Files.join directory file)).toOption
  | none, none => none

def checkAuthority (files : Files) (directory : String) (c : Cluster) : Except AccessError Unit :=
  if c.authorityData.isNone && c.authorityFile.isNone then .ok ()
  else if (content? files directory c.authorityData c.authorityFile).isSome then .ok ()
  else .error (.badConfig "no certificate authority")

def proxy? (c : Cluster) : Option String :=
  c.proxy.filter fun p => !p.isEmpty

def checkAddress (address : String) : Except AccessError Unit :=
  match Uri.Target.parse address with
  | .ok _ => .ok ()
  | .error e => .error (.badConfig e.message)

def isIdentity (certificate key : List UInt8) : Bool :=
  Text.contains (Text.Utf8.decodeLossy certificate) "-----BEGIN CERTIFICATE-----" &&
    Text.contains (Text.Utf8.decodeLossy key) "PRIVATE KEY-----"

/-- An identity that cannot be read is passed over, but one that can has to be whole. -/
def checkIdentity (files : Files) (directory : String) (u : User) : Except AccessError Unit :=
  match content? files directory u.certificateData u.certificateFile,
      content? files directory u.keyData u.keyFile with
  | some certificate, some key =>
    if isIdentity certificate key then .ok () else .error (.badClient "invalid identity")
  | _, _ => .ok ()

def isHeaderText (s : String) : Bool :=
  s.toList.all fun c => c == '\t' || (32 ≤ c.toNat && c.toNat < 127)

def checkImpersonation (u : User) : Except AccessError Unit :=
  if (u.impersonated.toList ++ u.impersonatedGroups).all isHeaderText then .ok ()
  else .error (.badClient "invalid header value")

def Provider.token? (p : Provider) : Option String :=
  if p.name = "oidc" ∨ p.name = "gcp" then p.config.lookup "id-token" else none

def credentials (files : Files) (directory : String) (u : User) : Except AccessError Credentials :=
  match u.provider with
  | some p =>
    match p.token? with
    | some token => .ok (.bearer token)
    | none => .error (.badClient s!"no token from {p.name}")
  | none =>
    match u.username, u.password, u.token, u.tokenFile with
    | some username, some password, _, _ => .ok (.basic username password)
    | _, _, some token, _ => .ok (.bearer token)
    | _, _, none, some file =>
      match (files (Files.join directory file)).toOption.bind Text.Utf8.decode? with
      | some token => .ok (.bearer (Text.trim token))
      | none => .error (.badClient "no token file")
    | _, _, none, none => if u.usesCommand then .error (.badClient "no credentials") else .ok .anonymous

def noUser : User :=
  ⟨none, none, none, none, none, none, none, none, none, [], none, false⟩

def Selection.access (files : Files) (directory : String) (s : Selection) :
    Except AccessError ClusterAccess := do
  checkAddress s.server
  checkAuthority files directory s.cluster
  let user := s.user.getD noUser
  match proxy? s.cluster with
  | some address =>
    checkAddress address
    .error (.badClient "no proxy")
  | none =>
    checkIdentity files directory user
    checkImpersonation user
    return ⟨s.server, ← credentials files directory user⟩

def access (files : Files) (path : String) (context : Option String) :
    Except AccessError ClusterAccess := do
  let s ← (← read files path).select context
  s.access files (Files.directory path)

end Kubeconfig

/-- How a connection reaches its cluster. There is no cluster around this program. -/
def Connection.access (files : Files) : Connection → Except Kubeconfig.AccessError ClusterAccess
  | .inCluster => .error (.notInCluster "not in a cluster")
  | .kubeconfig path context => Kubeconfig.access files path context

end ClusterGateway
