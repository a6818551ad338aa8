import Gatehouse.Json.Decode

/-!
# Token headers

A header names the signature algorithm and may name the key. Its other fields are not used, yet
each that is present must have its type.
-/

namespace Gatehouse

/-- The algorithms that a header can name. -/
inductive TokenAlgorithm where
  | hs256
  | hs384
  | hs512
  | es256
  | es384
  | rs256
  | rs384
  | rs512
  | ps256
  | ps384
  | ps512
  | edDsa
deriving DecidableEq, Repr

namespace TokenAlgorithm

/-- All algorithms. -/
def all : List TokenAlgorithm :=
  [hs256, hs384, hs512, es256, es384, rs256, rs384, rs512, ps256, ps384, ps512, edDsa]

/-- The name of an algorithm. -/
def name : TokenAlgorithm → String
  | hs256 => "HS256"
  | hs384 => "HS384"
  | hs512 => "HS512"
  | es256 => "ES256"
  | es384 => "ES384"
  | rs256 => "RS256"
  | rs384 => "RS384"
  | rs512 => "RS512"
  | ps256 => "PS256"
  | ps384 => "PS384"
  | ps512 => "PS512"
  | edDsa => "EdDSA"

/-- The algorithm with a given name. -/
def ofName? (name : String) : Option TokenAlgorithm :=
  all.find? (·.name == name)

end TokenAlgorithm

/-- What a header tells about its token. -/
structure TokenHeader where
  alg : TokenAlgorithm
  kid : Option String
deriving DecidableEq, Repr

namespace TokenHeader

/-! ## Embedded keys -/

/-- A name out of a fixed choice: the text itself, or an object that maps it to `null`. -/
def choice? : Json → Option String
  | .string s => s
  | .object [(some key, .null)] => some key
  | _ => none

/-- Whether each of some fields occurs at most once among members and passes a check if it is there
and not `null`. -/
def optionals (ms : List (Option String × Json)) (check : Json → Bool) (keys : List String) :
    Bool :=
  keys.all fun key =>
    match Json.valuesAt ms key with
    | [] => true
    | [.null] => true
    | [v] => check v
    | _ => false

/-- Whether each of some fields occurs exactly once among members and passes a check. -/
def requireds (ms : List (Option String × Json)) (check : Json → Bool) (keys : List String) :
    Bool :=
  keys.all fun key =>
    match Json.valuesAt ms key with
    | [v] => check v
    | _ => false

/-- Whether a value is text. -/
def isText (j : Json) : Bool := j.text?.isSome

/-- Whether a value is a list of texts. -/
def isTextList (j : Json) : Bool := (j.list? Json.text?).isSome

/-- Whether a value names one out of a fixed choice. -/
def isOneOf (names : List String) (j : Json) : Bool :=
  (choice? j).any names.contains

/-- The names of curves in embedded keys. -/
def curves : List String := ["P-256", "P-384", "P-521", "Ed25519"]

/-- Whether members give the parameters of a key of some type. -/
def hasKeyParameters (ms : List (Option String × Json)) : Bool :=
  (requireds ms (isOneOf ["EC"]) ["kty"] && requireds ms (isOneOf curves) ["crv"] &&
    requireds ms isText ["x", "y"]) ||
  (requireds ms (isOneOf ["RSA"]) ["kty"] && requireds ms isText ["n", "e"]) ||
  (requireds ms (isOneOf ["oct"]) ["kty"] && requireds ms isText ["k"]) ||
  (requireds ms (isOneOf ["OKP"]) ["kty"] && requireds ms (isOneOf curves) ["crv"] &&
    requireds ms isText ["x"])

/-- Whether a value is an embedded key. It is kept whole, so nothing in it may be unsound. -/
def isEmbeddedKey (j : Json) : Bool :=
  match j with
  | .object ms =>
    Json.isKeepable 1 j && optionals ms isText ["use", "kid", "x5u", "x5t", "x5t#S256"] &&
      optionals ms isTextList ["key_ops", "x5c"] &&
      optionals ms (fun v => (choice? v).isSome) ["alg"] && hasKeyParameters ms
  | _ => false

/-! ## Reading and writing -/

/-- The fields of a header, in order. -/
def fields : List Json.Field :=
  [.optional "typ", .required "alg", .optional "cty", .optional "jku", .optional "jwk",
    .optional "kid", .optional "x5u", .optional "x5c", .optional "x5t", .optional "x5t#S256"]

/-- Whether a value is `null` or passes a check. -/
def isNullOr (check : Json → Bool) : Json → Bool
  | .null => true
  | j => check j

/-- The header that a JSON value gives. -/
def ofJson? (j : Json) : Option TokenHeader := do
  match ← Json.fields? fields j with
  | [typ, alg, cty, jku, jwk, kid, x5u, x5c, x5t, x5tS256] =>
    let alg ← (choice? alg).bind TokenAlgorithm.ofName?
    let kid ← kid.option? Json.text?
    if [typ, cty, jku, x5u, x5t, x5tS256].all (isNullOr isText) && isNullOr isEmbeddedKey jwk &&
        isNullOr isTextList x5c then
      return ⟨alg, kid⟩
    else none
  | _ => none

/-- A header as JSON. -/
def toJson (h : TokenHeader) : Json :=
  Json.obj ([("typ", Json.str "JWT"), ("alg", Json.str h.alg.name)] ++ Json.present "kid" h.kid)

end TokenHeader
end Gatehouse
