import ClusterGateway.Yaml.Value

/-!
# Kubeconfig files

A file names clusters, users and contexts, where a context joins a cluster with a user. Fields
that are not known are passed over, those that are known have to be of their type, and null
stands for a field that is missing. A file of several documents is read as one; of two entries
with one name the first counts.
-/

namespace ClusterGateway

namespace Kubeconfig

structure Cluster where
  server : Option String
  proxy : Option String
  authorityFile : Option String
  authorityData : Option String
  deriving DecidableEq, Repr

structure Provider where
  name : String
  config : List (String × String)
  deriving DecidableEq, Repr

structure User where
  username : Option String
  password : Option String
  token : Option String
  tokenFile : Option String
  certificateFile : Option String
  certificateData : Option String
  keyFile : Option String
  keyData : Option String
  impersonated : Option String
  impersonatedGroups : List String
  provider : Option Provider
  usesCommand : Bool
  deriving DecidableEq, Repr

structure Context where
  cluster : String
  user : Option String
  deriving DecidableEq, Repr

structure Named (α : Type) where
  name : String
  content : Option α
  deriving DecidableEq, Repr

end Kubeconfig

structure Kubeconfig where
  clusters : List (Kubeconfig.Named Kubeconfig.Cluster)
  users : List (Kubeconfig.Named Kubeconfig.User)
  contexts : List (Kubeconfig.Named Kubeconfig.Context)
  currentContext : Option String
  kind : Option String
  apiVersion : Option String
  deriving DecidableEq, Repr

namespace Kubeconfig

open Yaml (Value)

abbrev Fields := List (String × Value)

def optional? (read : Value → Option α) (fields : Fields) (name : String) : Option (Option α) :=
  match fields.lookup name with
  | none => some none
  | some v => if v.isNull then some none else (read v).map some

def required? (read : Value → Option α) (fields : Fields) (name : String) : Option α :=
  (fields.lookup name).bind read

def sequence? (read : Value → Option α) (fields : Fields) (name : String) : Option (List α) :=
  match fields.lookup name with
  | none => some []
  | some v => if v.isNull then some [] else v.items?.bind fun items => items.mapM read

def strings? (v : Value) : Option (List String) :=
  v.items?.bind fun items => items.mapM Value.string?

def stringMap? (v : Value) : Option (List (String × String)) :=
  v.fields?.bind fun fields => fields.mapM fun (name, v) => v.string?.map fun s => (name, s)

def extension? (v : Value) : Option Unit := do
  let fields ← v.fields?
  let _ ← required? Value.string? fields "name"
  let content ← fields.lookup "extension"
  if content.isJson then some () else none

def extensions? (fields : Fields) : Option Unit :=
  (optional? (fun v => v.items?.bind fun items => items.mapM extension?) fields "extensions").map fun _ => ()

def named? (read : Value → Option α) (field : String) (v : Value) : Option (Named α) := do
  let fields ← v.fields?
  some ⟨← required? Value.string? fields "name", ← optional? read fields field⟩

def cluster? (v : Value) : Option Cluster := do
  let fields ← v.fields?
  let _ ← optional? Value.bool? fields "insecure-skip-tls-verify"
  let _ ← optional? Value.bool? fields "disable-compression"
  let _ ← optional? Value.string? fields "tls-server-name"
  extensions? fields
  some {
    server := ← optional? Value.string? fields "server"
    proxy := ← optional? Value.string? fields "proxy-url"
    authorityFile := ← optional? Value.string? fields "certificate-authority"
    authorityData := ← optional? Value.string? fields "certificate-authority-data" }

def provider? (v : Value) : Option Provider := do
  let fields ← v.fields?
  let config := match fields.lookup "config" with
    | none => some []
    | some v => stringMap? v
  some ⟨← required? Value.string? fields "name", ← config⟩

def isInteractiveMode (s : String) : Bool :=
  s == "Never" || s == "IfAvailable" || s == "Always"

def interactiveMode? (v : Value) : Option Unit :=
  v.string?.bind fun s => if isInteractiveMode s then some () else none

def command? (v : Value) : Option Unit := do
  let fields ← v.fields?
  let _ ← optional? Value.string? fields "apiVersion"
  let _ ← optional? Value.string? fields "command"
  let _ ← optional? strings? fields "args"
  let _ ← optional? (fun v => v.items?.bind fun items => items.mapM stringMap?) fields "env"
  let _ ← optional? interactiveMode? fields "interactiveMode"
  match fields.lookup "provideClusterInfo" with
  | none => some ()
  | some v => v.bool?.map fun _ => ()

def user? (v : Value) : Option User := do
  let fields ← v.fields?
  let text := optional? Value.string? fields
  some {
    username := ← text "username"
    password := ← text "password"
    token := ← text "token"
    tokenFile := ← text "tokenFile"
    certificateFile := ← text "client-certificate"
    certificateData := ← text "client-certificate-data"
    keyFile := ← text "client-key"
    keyData := ← text "client-key-data"
    impersonated := ← text "as"
    impersonatedGroups := (← optional? strings? fields "as-groups").getD []
    provider := ← optional? provider? fields "auth-provider"
    usesCommand := (← optional? command? fields "exec").isSome }

def context? (v : Value) : Option Context := do
  let fields ← v.fields?
  let _ ← optional? Value.string? fields "namespace"
  extensions? fields
  some ⟨← required? Value.string? fields "cluster", ← optional? Value.string? fields "user"⟩

def preferences? (v : Value) : Option Unit := do
  let fields ← v.fields?
  let _ ← optional? Value.bool? fields "colors"
  extensions? fields

def ofValue? (v : Value) : Option Kubeconfig := do
  let fields ← v.fields?
  let _ ← optional? preferences? fields "preferences"
  extensions? fields
  some {
    clusters := ← sequence? (named? cluster? "cluster") fields "clusters"
    users := ← sequence? (named? user? "user") fields "users"
    contexts := ← sequence? (named? context? "context") fields "contexts"
    currentContext := ← optional? Value.string? fields "current-context"
    kind := ← optional? Value.string? fields "kind"
    apiVersion := ← optional? Value.string? fields "apiVersion" }

/-! ## Several documents -/

def agree (a b : Option String) : Bool :=
  a.isNone || b.isNone || a == b

def appendNew (first second : List (Named α)) : List (Named α) :=
  first ++ second.filter fun n => !(first.any fun m => m.name == n.name)

/-- Two documents of different kinds or versions do not go together. -/
def merge? (a b : Kubeconfig) : Option Kubeconfig :=
  if agree a.kind b.kind && agree a.apiVersion b.apiVersion then
    some ⟨appendNew a.clusters b.clusters, appendNew a.users b.users, appendNew a.contexts b.contexts,
      a.currentContext <|> b.currentContext, a.kind <|> b.kind, a.apiVersion <|> b.apiVersion⟩
  else none

def parse? (text : String) : Option Kubeconfig := do
  match ← (← Yaml.readAll? text).mapM ofValue? with
  | [] => none
  | first :: others => others.foldlM merge? first

end Kubeconfig

end ClusterGateway
