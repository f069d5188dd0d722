import ClusterGateway.Access.Principal
import ClusterGateway.Json.Printer
import ClusterGateway.Json.Reader
import ClusterGateway.Text.Utf8
import ClusterGateway.Token.Base64Url
import ClusterGateway.Token.Sha256

/-!
# Bearer tokens

A token is a header, claims and a signature, each in base64 for URLs, between dots. The
signature is the keyed digest of the text before it. A token counts until a minute after it
expires, and one that is meant for an audience is refused.
-/

namespace ClusterGateway

structure Claims where
  subject : String
  level : Level
  /-- Seconds of the clock at which the token expires, and at which it was issued. -/
  expires : Nat
  issued : Nat
  deriving DecidableEq, Repr

namespace Token

inductive Error where
  | invalidToken
  | base64 (why : String)
  | json (why : String)
  | invalidAlgorithm
  | invalidSignature
  | expired
  | invalidAudience
  deriving DecidableEq, Repr

def Error.message : Error → String
  | invalidToken => "InvalidToken"
  | base64 why => s!"Base64 error: {why}"
  | json why => s!"JSON error: {why}"
  | invalidAlgorithm => "InvalidAlgorithm"
  | invalidSignature => "InvalidSignature"
  | expired => "ExpiredSignature"
  | invalidAudience => "InvalidAudience"

/-- Seconds after its end in which a token still counts. -/
def leeway : Nat := 60

def algorithms : List String :=
  ["HS256", "HS384", "HS512", "ES256", "ES384", "RS256", "RS384", "RS512", "PS256", "PS384", "PS512", "EdDSA"]

def algorithm : String := "HS256"

/-! ## Issuing -/

def encodePart (s : String) : String :=
  String.ofList (Base64Url.encode (Text.Utf8.encode s))

def headerText : String :=
  "\x7b\"typ\":\"JWT\",\"alg\":\"" ++ algorithm ++ "\"\x7d"

/-- Claims are written in the order of their declaration. -/
def claimsText (c : Claims) : String :=
  Json.render (.obj [("sub", .str c.subject), ("access_level", .str c.level.name),
    ("exp", .ofNat c.expires), ("iat", .ofNat c.issued)])

def signature (secret message : String) : String :=
  String.ofList (Base64Url.encode (Sha256.hmac (Text.Utf8.encode secret) (Text.Utf8.encode message)))

def sign (secret : String) (c : Claims) : String :=
  let message := encodePart headerText ++ "." ++ encodePart (claimsText c)
  message ++ "." ++ signature secret message

def issue (secret subject : String) (level : Level) (now lifetime : Nat) : String :=
  sign secret ⟨subject, level, (now + lifetime) % Nat.pow 2 64, now⟩

/-! ## Checking -/

def splitLast? (cs : List Char) : Option (List Char × List Char) :=
  let after := (cs.reverse.takeWhile (· ≠ '.')).reverse
  match (cs.reverse.dropWhile (· ≠ '.')) with
  | [] => none
  | _ :: before => some (before.reverse, after)

def decodePart (part : List Char) : Except Error Json :=
  match Base64Url.decode? part with
  | none => .error (.base64 "invalid input")
  | some bytes =>
    match (Text.Utf8.decode? bytes).bind Json.parseAsWritten? with
    | none => .error (.json "malformed text")
    | some v => .ok v

/-- The fields of a record in an object that has each of them at most once, or in an array of
all of them. -/
def record? (names : List String) (v : Json) : Option (String → Option Json) :=
  match v with
  | .obj fields =>
    if names.any fun n => 1 < (fields.filter (·.1 == n)).length then none else v.record? names
  | .arr items => if items.length = names.length then v.record? names else none
  | _ => none

def headerFields : List String :=
  ["typ", "alg", "cty", "jku", "jwk", "kid", "x5u", "x5c", "x5t", "x5t#S256"]

def strings? (v : Json) : Option (List String) := do
  (← v.items?).mapM Json.string?

def curves : List String := ["P-256", "P-384", "P-521", "Ed25519"]

def keyAlgorithms : List String := ["RSA1_5", "RSA-OAEP", "RSA-OAEP-256"]

def isKey (v : Json) : Bool :=
  let has (names : List String) := names.all fun n => ((v.get? n).bind Json.string?).isSome
  let onCurve := ((v.get? "crv").bind Json.tag?).any curves.contains
  let parameters := match (v.get? "kty").bind Json.tag? with
    | some "EC" => onCurve && has ["x", "y"]
    | some "RSA" => has ["n", "e"]
    | some "oct" => has ["k"]
    | some "OKP" => onCurve && has ["x"]
    | _ => false
  let optional {α : Type} (read : Json → Option α) (n : String) := (Json.optional? read (v.get? n)).isSome
  parameters && ["use", "kid", "x5u", "x5t", "x5t#S256"].all (optional Json.string?) &&
    ["key_ops", "x5c"].all (optional strings?) &&
    optional (fun a => a.tag?.filter (algorithms ++ keyAlgorithms).contains) "alg"

def headerAlgorithm? (v : Json) : Option String := do
  let field ← record? headerFields v
  for name in ["typ", "cty", "jku", "kid", "x5u", "x5t", "x5t#S256"] do
    let _ ← Json.optional? Json.string? (field name)
  let _ ← Json.optional? (fun v => if isKey v then some v else none) (field "jwk")
  let _ ← Json.optional? strings? (field "x5c")
  let name ← (← field "alg").tag?
  if algorithms.contains name then some name else none

def Claims.ofJson? (v : Json) : Option Claims := do
  let field ← record? ["sub", "access_level", "exp", "iat"] v
  let subject ← (← field "sub").string?
  let level ← Level.ofName? (← (← field "access_level").tag?)
  let expires ← (← field "exp").uint64?
  let issued ← (← field "iat").uint64?
  return ⟨subject, level, expires, issued⟩

/-- An audience is a string or a list of strings. -/
def hasAudience (v : Json) : Bool :=
  match v.get? "aud" with
  | some (.str _) => true
  | some other => (strings? other).isSome
  | none => false

/-- Whether the claims can be checked: they are an object that has none of the common ones
twice, and the time before which it does not count is neither a list nor an object with
anything in it. -/
def hasCheckedClaims (v : Json) : Bool :=
  match v with
  | .obj fields =>
    (["exp", "nbf", "sub", "iss", "aud"].all fun n => (fields.filter (·.1 == n)).length ≤ 1) &&
      fields.all fun (n, v) => n != "nbf" || (v.items?.getD []).isEmpty && (v.fields?.getD []).isEmpty
  | _ => false

def validate (secret token : String) (now : Nat) : Except Error Claims := do
  let some (message, signed) := splitLast? token.toList | .error .invalidToken
  let some (header, claims) := splitLast? message | .error .invalidToken
  let header ← decodePart header
  let some named := headerAlgorithm? header | .error (.json "invalid header")
  if named ≠ algorithm then .error .invalidAlgorithm
  if signature secret (String.ofList message) ≠ String.ofList signed then .error .invalidSignature
  let v ← decodePart claims
  let some claims := Claims.ofJson? v | .error (.json "invalid claims")
  if !hasCheckedClaims v then .error (.json "invalid claims")
  if claims.expires + leeway < now then .error .expired
  if hasAudience v then .error .invalidAudience
  return claims

def Error.report (e : Error) : String := s!"JWT validation failed: {e.message}"

end Token

end ClusterGateway
