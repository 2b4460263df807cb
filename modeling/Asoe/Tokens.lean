-- The tokens of the service: JWTs that are signed with HS256. One encoder
-- and one secret serve access and refresh tokens; which of the two a token is
-- stands in its claims.
import Asoe.Exceptions
import Asoe.Lib.Base64
import Asoe.Lib.PyJsonRead
import Asoe.Lib.Sha256

namespace asoe

open py prog

/-! ## Encoding -/

def value_error (text : String) : PyErr := ⟨"ValueError", text⟩

def b64url_decode (s : List Char) : Option (List ℕ) := base64.decode (s ++ base64.padding s)

/-- One part of a token: the JSON text of an object in base64. -/
def json_part (d : PyDict) : List Char := base64.encode (base64.utf8 (json.dumps false (.dict d)))

def hs256 (secret : String) (signing_input : List Char) : List ℕ :=
  sha256.hmac (base64.utf8 secret.toList) (base64.utf8 signing_input)

def signing_input (payload : PyDict) : List Char :=
  json_part [("alg", .str "HS256"), ("typ", .str "JWT")] ++ '.' :: json_part payload

/-- `_jwt_encode(payload, secret)`. -/
def jwt_encode (payload : PyDict) (secret : String) : List Char :=
  signing_input payload ++ '.' :: base64.encode (hs256 secret (signing_input payload))

/-- The claims are valid up to the time `exp`, if they have one. -/
def check_expiry (payload : PyDict) (now : ℚ) : Except PyErr PyDict :=
  match dict.get payload "exp" with
  | none | some .none => .ok payload
  | some exp => do
    if ← PyVal.compare .gt (.float (.fin now)) exp then .error (value_error "Token has expired")
    else .ok payload

/-- `_jwt_decode(token, secret)`. What the decoders raise is a `ValueError`,
with a text of their own. -/
def jwt_decode (token : List Char) (secret : String) (now : ℚ) : Except PyErr PyDict :=
  match token.splitOn '.' with
  | [header_b64, body_b64, sig_b64] =>
    match b64url_decode sig_b64 with
    | none => .error (value_error "Incorrect padding")
    | some actual_sig =>
      if hs256 secret (header_b64 ++ '.' :: body_b64) ≠ actual_sig then
        .error (value_error "Invalid JWT signature")
      else
        match ((b64url_decode body_b64).bind base64.utf8?).bind json.loads with
        | some (.dict payload) => check_expiry payload now
        | some _ => .error ⟨"AttributeError", "object has no attribute 'get'"⟩
        | none => .error (value_error "Expecting value")
  | _ => .error (value_error "Invalid JWT format")

/-! ## Deployments -/

/-- `UserRecord`. -/
structure UserRecord where
  sub : String
  email : String
  name : String
  title : String
  avatar_initials : String
  roles : List String
  org : String
  assigned_accounts : List String := []

/-- What one deployment runs with: its environment variables, its users, and
`str.lower`. -/
structure Deployment where
  secret : String
  asoe_env : Option String
  access_ttl : Option String := none
  refresh_ttl : Option String := none
  users_by_email : List (String × UserRecord) := []
  lower : String → String

/-- An override that is no positive integer is not taken. -/
def ttl_or_default (raw : Option String) (default_ttl : ℤ) : ℤ :=
  match intOfText? (raw.getD "") with
  | some value => if 0 < value then value else default_ttl
  | none => default_ttl

/-- `_resolve_token_ttls()`: seconds for access and refresh tokens. -/
def resolve_token_ttls (d : Deployment) : ℤ × ℤ :=
  if d.lower (d.asoe_env.getD "production") = "sandbox" then
    (ttl_or_default d.access_ttl (24 * 3600), ttl_or_default d.refresh_ttl (30 * 24 * 3600))
  else (ttl_or_default d.access_ttl (60 * 60), ttl_or_default d.refresh_ttl (7 * 24 * 3600))

/-- `_current_env()`, the environment that new tokens carry. -/
def current_env (d : Deployment) : String := d.lower (d.asoe_env.getD "sandbox")

/-- The environment that `_validate_environment` asks for. -/
def server_env (d : Deployment) : String := d.asoe_env.getD "production"

/-! ## Writing tokens -/

def ROLE_PERMISSIONS : List (String × List String) :=
  [("analyst", ["exceptions:read", "exceptions:approve", "exceptions:escalate", "dashboard:read"]),
    ("manager", ["exceptions:read", "exceptions:approve", "exceptions:escalate",
      "exceptions:override", "rules:write", "dashboard:read"]),
    ("admin", ["exceptions:read", "exceptions:approve", "exceptions:escalate",
      "exceptions:override", "rules:write", "users:manage", "policy:write", "audit:read",
      "dashboard:read"]),
    ("viewer", ["exceptions:read", "dashboard:read"]), ("partner", ["exceptions:read"])]

/-- What a loop over a value goes through. -/
def iterated : PyVal → Except PyErr (List PyVal)
  | .list xs => .ok xs
  | .dict d => .ok (d.map fun p => .str p.1)
  | .str s => .ok (s.toList.map fun c => .str (String.singleton c))
  | v => .error ⟨"TypeError", "'" ++ type_name v ++ "' object is not iterable"⟩

/-- `_expand_permissions(roles)`: sorted, each once. -/
def expand_permissions (roles : PyVal) : Except PyErr (List String) := do
  let granted ← (← iterated roles).mapM fun role => do
    return (← PyVal.lookupIn ROLE_PERMISSIONS role).getD []
  return (granted.flatten.dedup).insertionSort (· ≤ ·)

/-- What `_create_token` is told of the user; what is left out is falsy. -/
structure TokenArgs where
  sub : PyVal
  email : PyVal
  name : PyVal
  roles : PyVal
  org : PyVal
  env : String
  auth_method : PyVal := .none
  retailer_id : PyVal := .none
  title : PyVal := .none
  avatar_initials : PyVal := .none
  assigned_accounts : PyVal := .none

/-- A claim that is written when its value is truthy. -/
def optional_claim (key : String) (value : PyVal) : PyDict :=
  if value.truthy then [(key, value)] else []

/-- The claims of `_create_token`. -/
def token_claims (token_type : String) (expire_seconds : ℤ) (args : TokenArgs) (now : ℚ)
    (jti : String) : Except PyErr PyDict := do
  let permissions ←
    if token_type = "access" then do
      pure [("permissions", PyVal.list ((← expand_permissions args.roles).map .str))]
    else pure []
  return [("sub", args.sub), ("email", args.email), ("name", args.name), ("roles", args.roles),
      ("org", args.org), ("env", .str args.env), ("iat", .int now.floor),
      ("exp", .int (now.floor + expire_seconds)), ("token_type", .str token_type),
      ("jti", .str jti)] ++ permissions ++ optional_claim "auth_method" args.auth_method ++
    optional_claim "retailer_id" args.retailer_id ++ optional_claim "title" args.title ++
    optional_claim "avatar_initials" args.avatar_initials ++
    optional_claim "assigned_accounts" args.assigned_accounts

/-- The clock readings and the ids that a call draws: it may read a token,
and then writes an access and a refresh token. -/
structure Draws where
  now : ℚ
  access_now : ℚ
  refresh_now : ℚ
  access_jti : String
  refresh_jti : String

/-- `AuthTokenResponse`, as far as it holds tokens. -/
structure TokenPair where
  access_token : List Char
  refresh_token : List Char
  deriving DecidableEq

/-- An access token, then a refresh token. The latter has no `auth_method`. -/
def create_tokens (d : Deployment) (draws : Draws) (args : TokenArgs) : Except PyErr TokenPair := do
  let access ← token_claims "access" (resolve_token_ttls d).1 args draws.access_now
    draws.access_jti
  let refresh ← token_claims "refresh" (resolve_token_ttls d).2
    { args with auth_method := .none } draws.refresh_now draws.refresh_jti
  return ⟨jwt_encode access d.secret, jwt_encode refresh d.secret⟩

/-! ## Reading tokens -/

/-- The text of a claim that must be a string. -/
def string_claim (v : PyVal) : Except PyErr String :=
  match v with
  | .str s => .ok s
  | _ => .error ⟨"ValidationError", "Input should be a valid string"⟩

def optional_string_claim (v : PyVal) : Except PyErr (Option String) :=
  match v with
  | .none => .ok none
  | v => (string_claim v).map some

def strings_claim (v : PyVal) : Except PyErr (List String) :=
  match v with
  | .list xs => xs.mapM string_claim
  | _ => .error ⟨"ValidationError", "Input should be a valid list"⟩

/-- `AuthenticatedUser`, with all of its fields. -/
structure TokenUser extends AuthenticatedUser where
  email : String
  name : String
  title : String
  avatar_initials : String
  assigned_accounts : List String
  env : String
  retailer_id : Option String
  deriving DecidableEq

/-- `payload.get(key, default)`. -/
def claim (payload : PyDict) (key : String) (default_value : PyVal) : PyVal :=
  (dict.get payload key).getD default_value

/-- The user that the claims stand for. -/
def user_of_claims (payload : PyDict) (token_env : PyVal) : Except PyErr TokenUser := do
  let roles := claim payload "roles" (.list [])
  let permissions ← expand_permissions roles
  let retailer_id ← optional_string_claim (claim payload "retailer_id" .none)
  return { sub := ← string_claim (claim payload "sub" (.str "")),
           roles := ← strings_claim roles,
           org := ← string_claim (claim payload "org" (.str "")),
           permissions := permissions,
           email := ← string_claim (claim payload "email" (.str "")),
           name := ← string_claim (claim payload "name" (.str "")),
           title := ← string_claim (claim payload "title" (.str "")),
           avatar_initials := ← string_claim (claim payload "avatar_initials" (.str "")),
           assigned_accounts := ← strings_claim (claim payload "assigned_accounts" (.list [])),
           env := ← string_claim token_env,
           retailer_id := retailer_id }

/-- The token of an `Authorization` header. -/
def bearer_token (authorization : Option String) : Option (List Char) :=
  match authorization with
  | none => none
  | some header =>
    if "Bearer ".toList.isPrefixOf header.toList then some (stripChars (header.toList.drop 7))
    else none

/-- `_validate_environment(token_env)`. -/
def validate_environment (d : Deployment) (token_env : PyVal) : Except ApiError Unit :=
  if token_env = .str (server_env d) then .ok ()
  else .error (.asoe_error "ENV_MISMATCH" "Access denied." 403)

/-- `get_current_user`, for tokens that are signed with HS256. -/
def get_current_user (d : Deployment) (now : ℚ) (authorization : Option String) :
    Except ApiError TokenUser :=
  match bearer_token authorization with
  | none => .error (.asoe_error "UNAUTHORIZED" "Missing or invalid Authorization header." 401)
  | some token =>
    match jwt_decode token d.secret now with
    | .error e =>
      if e.kind = "ValueError" then
        .error (.asoe_error "UNAUTHORIZED" "Invalid or expired token." 401)
      else .error (.raised e)
    | .ok payload => do
      let token_env := claim payload "env" (.str "sandbox")
      validate_environment d token_env
      (user_of_claims payload token_env).mapError .raised

/-! ## Revocation -/

structure RevocationEntry where
  jti : PyVal
  revoked_at : ℤ
  reason : String
  deriving DecidableEq

/-- The store of the revoked ids, and what may fail over it. -/
abbrev AuthM := EStateM ApiError (List RevocationEntry)

def is_revoked (jti : PyVal) (store : List RevocationEntry) : Except PyErr Bool :=
  if jti.truthy then do
    let key ← PyVal.hashed jti
    return store.any fun entry => entry.jti.eq key
  else .ok false

/-- A second revocation keeps the entry of the first one. -/
def revoke (jti : PyVal) (reason : String) (now : ℚ) (store : List RevocationEntry) :
    Except PyErr (List RevocationEntry) :=
  if jti.truthy then do
    let key ← PyVal.hashed jti
    return if store.any fun entry => entry.jti.eq key then store
      else store ++ [⟨jti, now.floor, reason⟩]
  else .error (value_error "revoke() requires a non-empty jti")

def raised {α : Type} (r : Except PyErr α) : AuthM α := MonadExcept.ofExcept (r.mapError .raised)

/-! ## The routes -/

def invalid_token (message : String) : ApiError := .asoe_error "INVALID_TOKEN" message 401

/-- What a token says of a user of the store. -/
def user_args (d : Deployment) (user : UserRecord) (auth_method : String) : TokenArgs where
  sub := .str user.sub
  email := .str user.email
  name := .str user.name
  roles := .list (user.roles.map .str)
  org := .str user.org
  env := current_env d
  auth_method := .str auth_method
  title := .str user.title
  avatar_initials := .str user.avatar_initials
  assigned_accounts := .list (user.assigned_accounts.map .str)

def create_tokens_for_user (d : Deployment) (draws : Draws) (user : UserRecord)
    (auth_method : String) : Except PyErr TokenPair :=
  create_tokens d draws (user_args d user auth_method)

def get_user_by_email (d : Deployment) (email : String) : Option UserRecord :=
  (dict.get d.users_by_email (d.lower email)).or (dict.get d.users_by_email email)

/-- `POST /api/auth/login`: any password that is not empty is taken. -/
def login (d : Deployment) (draws : Draws) (email password : String) : AuthM TokenPair := do
  require (email ≠ "" ∧ password ≠ "")
    (.asoe_error "INVALID_CREDENTIALS" "Email and password are required." 400)
  match get_user_by_email d email with
  | none => throw (.asoe_error "INVALID_CREDENTIALS" "Invalid email or password." 401)
  | some user => raised (create_tokens_for_user d draws user "password+mfa")

def sso_args (d : Deployment) : TokenArgs where
  sub := .str "sso-user"
  email := .str "sso@example.com"
  name := .str "SSO User"
  roles := .list [.str "analyst"]
  org := .str "sso-tenant"
  env := current_env d
  auth_method := .str "sso"

/-- `GET /api/auth/sso/callback`. -/
def sso_callback (d : Deployment) (draws : Draws) : AuthM TokenPair :=
  raised (create_tokens d draws (sso_args d))

/-- `POST /api/auth/mfa/verify`. -/
def mfa_verify (d : Deployment) (draws : Draws) (code : String) : AuthM TokenPair := do
  require (code ≠ "") (.asoe_error "INVALID_MFA" "MFA code is required." 400)
  match get_user_by_email d "marcus.webb@acme-corp.com" with
  | none => throw (.asoe_error "INTERNAL" "Default user not found." 500)
  | some user => raised (create_tokens_for_user d draws user "password+mfa")

/-- The claims that a refresh hands on, under the environment of the
deployment that it is made at. -/
def refreshed_args (d : Deployment) (payload : PyDict) : TokenArgs :=
  { sub := claim payload "sub" (.str ""), email := claim payload "email" (.str ""),
    name := claim payload "name" (.str ""), roles := claim payload "roles" (.list []),
    org := claim payload "org" (.str ""), env := current_env d,
    retailer_id := claim payload "retailer_id" .none, title := claim payload "title" (.str ""),
    avatar_initials := claim payload "avatar_initials" (.str ""),
    assigned_accounts := claim payload "assigned_accounts" .none }

/-- The id of the token is looked up, and then spent. A token without one is
let through. -/
def rotate (payload : PyDict) (now : ℚ) : AuthM Unit := do
  let jti := claim payload "jti" .none
  if jti = .none then return ()
  else
    let store ← get
    if ← raised (is_revoked jti store) then throw (invalid_token "Refresh token has been revoked.")
    else set (← raised (revoke jti "rotation" now store))

/-- `POST /api/auth/refresh`. -/
def refresh (d : Deployment) (draws : Draws) (refresh_token : List Char) : AuthM TokenPair := do
  match jwt_decode refresh_token d.secret draws.now with
  | .error e =>
    throw (if e.kind = "ValueError" then invalid_token "Invalid or expired refresh token."
      else .raised e)
  | .ok payload =>
    require (claim payload "token_type" .none = .str "refresh")
      (invalid_token "Expected a refresh token.")
    rotate payload draws.now
    raised (create_tokens d draws (refreshed_args d payload))

/-! ## What was encoded is decoded -/

theorem dot_not_mem_json_part (d : PyDict) : '.' ∉ json_part d :=
  base64.dot_not_mem_encode (base64.utf8_lt _)

theorem splitOn_token (payload : PyDict) {sig : List Char} (h : '.' ∉ sig) :
    (signing_input payload ++ '.' :: sig).splitOn '.' =
      [json_part [("alg", .str "HS256"), ("typ", .str "JWT")], json_part payload, sig] := by
  rw [signing_input, List.append_assoc, List.cons_append,
    List.splitOn_append_cons_self_of_not_mem (dot_not_mem_json_part _),
    List.splitOn_append_cons_self_of_not_mem (dot_not_mem_json_part _),
    List.splitOn_eq_singleton h]

theorem hs256_lt (secret : String) (text : List Char) : ∀ b ∈ hs256 secret text, b < 256 :=
  sha256.hmac_lt _ _

theorem jwt_decode_encode {payload : PyDict} (h : json.loadable (.dict payload) = true)
    (secret : String) (now : ℚ) :
    jwt_decode (jwt_encode payload secret) secret now = check_expiry payload now := by
  have hsig := hs256_lt secret (signing_input payload)
  have hsplit := splitOn_token payload (base64.dot_not_mem_encode hsig)
  have hbody : ((b64url_decode (json_part payload)).bind base64.utf8?).bind json.loads =
      some (.dict payload) := by
    rw [b64url_decode, json_part, base64.decode_encode (base64.utf8_lt _), Option.bind_some,
      base64.utf8?_ascii (json.ascii_dumps _ h), Option.bind_some, json.loads_dumps h]
  have hread : b64url_decode (base64.encode (hs256 secret (signing_input payload))) =
      some (hs256 secret (signing_input payload)) := base64.decode_encode hsig
  rw [jwt_decode, jwt_encode, hsplit]
  simp only [hread, hbody]
  rw [← signing_input, if_neg (by simp)]

/-! ## The claims of a token -/

/-- Texts and lists of texts, as the record of a user has them. -/
structure TextArgs (args : TokenArgs) : Prop where
  sub : ∃ s, args.sub = .str s
  email : ∃ s, args.email = .str s
  name : ∃ s, args.name = .str s
  org : ∃ s, args.org = .str s
  roles : ∃ rs : List String, args.roles = .list (rs.map .str)
  auth_method : args.auth_method = .none ∨ ∃ s, args.auth_method = .str s
  retailer_id : args.retailer_id = .none ∨ ∃ s, args.retailer_id = .str s
  title : args.title = .none ∨ ∃ s, args.title = .str s
  avatar_initials : args.avatar_initials = .none ∨ ∃ s, args.avatar_initials = .str s
  assigned_accounts : args.assigned_accounts = .none ∨
    ∃ xs : List String, args.assigned_accounts = .list (xs.map .str)

/-- The claims of a token, with the permissions that an access token has. -/
def claims_of (token_type : String) (expire_seconds : ℤ) (args : TokenArgs) (now : ℚ)
    (jti : String) (permissions : PyDict) : PyDict :=
  [("sub", args.sub), ("email", args.email), ("name", args.name), ("roles", args.roles),
      ("org", args.org), ("env", .str args.env), ("iat", .int now.floor),
      ("exp", .int (now.floor + expire_seconds)), ("token_type", .str token_type),
      ("jti", .str jti)] ++ permissions ++ optional_claim "auth_method" args.auth_method ++
    optional_claim "retailer_id" args.retailer_id ++ optional_claim "title" args.title ++
    optional_claim "avatar_initials" args.avatar_initials ++
    optional_claim "assigned_accounts" args.assigned_accounts

/-- No permissions, or the one claim of them. -/
def Permissions (permissions : PyDict) : Prop :=
  permissions = [] ∨ ∃ ps : List String, permissions = [("permissions", .list (ps.map .str))]

theorem token_claims_ok {token_type : String} {expire_seconds : ℤ} {args : TokenArgs} {now : ℚ}
    {jti : String} {payload : PyDict}
    (h : token_claims token_type expire_seconds args now jti = .ok payload) :
    ∃ permissions, Permissions permissions ∧
      payload = claims_of token_type expire_seconds args now jti permissions := by
  unfold token_claims at h
  by_cases hkind : token_type = "access"
  · rw [if_pos hkind] at h
    cases hexpand : expand_permissions args.roles with
    | error e =>
      rw [hexpand] at h
      cases h
    | ok ps =>
      rw [hexpand] at h
      exact ⟨_, .inr ⟨ps, rfl⟩, (Except.ok.inj h).symm⟩
  · rw [if_neg hkind] at h
    exact ⟨[], .inl rfl, (Except.ok.inj h).symm⟩

theorem get_append (d e : PyDict) (k : String) :
    dict.get (d ++ e) k = (dict.get d k).or (dict.get e k) := List.lookup_append

theorem get_optional_claim (key k : String) (v : PyVal) :
    dict.get (optional_claim key v) k = if k = key ∧ v.truthy = true then some v else none := by
  unfold optional_claim
  by_cases hv : v.truthy = true
  · by_cases hk : k = key
    · simp [hv, hk, dict.get_cons]
    · simp [hv, hk, dict.get_cons]
  · simp [hv]

theorem get_permissions {permissions : PyDict} (h : Permissions permissions) {k : String}
    (hk : k ≠ "permissions") : dict.get permissions k = none := by
  obtain rfl | ⟨ps, rfl⟩ := h
  · rfl
  · simp [dict.get_cons, hk]

section claims

variable (token_type : String) (expire_seconds : ℤ) (args : TokenArgs) (now : ℚ) (jti : String)
  {permissions : PyDict}

theorem claim_optional (hperm : Permissions permissions) :
    (∀ dflt, claim (claims_of token_type expire_seconds args now jti permissions)
      "retailer_id" dflt = if args.retailer_id.truthy then args.retailer_id else dflt) ∧
    (∀ dflt, claim (claims_of token_type expire_seconds args now jti permissions)
      "title" dflt = if args.title.truthy then args.title else dflt) ∧
    (∀ dflt, claim (claims_of token_type expire_seconds args now jti permissions)
      "avatar_initials" dflt =
        if args.avatar_initials.truthy then args.avatar_initials else dflt) ∧
    (∀ dflt, claim (claims_of token_type expire_seconds args now jti permissions)
      "assigned_accounts" dflt =
        if args.assigned_accounts.truthy then args.assigned_accounts else dflt) := by
  refine ⟨fun dflt => ?_, fun dflt => ?_, fun dflt => ?_, fun dflt => ?_⟩
  all_goals
    simp only [claim, claims_of, get_append, get_optional_claim]
    rw [get_permissions hperm (by decide)]
    simp only [dict.get_cons]
    simp
    split <;> simp_all

theorem claims_named (permissions : PyDict) :
    let payload := claims_of token_type expire_seconds args now jti permissions
    (∀ dflt, claim payload "sub" dflt = args.sub) ∧
      (∀ dflt, claim payload "email" dflt = args.email) ∧
      (∀ dflt, claim payload "name" dflt = args.name) ∧
      (∀ dflt, claim payload "roles" dflt = args.roles) ∧
      (∀ dflt, claim payload "org" dflt = args.org) ∧
      (∀ dflt, claim payload "env" dflt = .str args.env) ∧
      dict.get payload "exp" = some (.int (now.floor + expire_seconds)) ∧
      (∀ dflt, claim payload "token_type" dflt = .str token_type) := by
  simp [claim, claims_of, dict.get_cons]

theorem mapM_ok {α β : Type} {f : α → Except PyErr β} {xs : List α}
    (h : ∀ x ∈ xs, ∃ y, f x = .ok y) : ∃ ys, xs.mapM f = .ok ys := by
  induction xs with
  | nil => exact ⟨[], rfl⟩
  | cons x xs ih =>
    obtain ⟨y, hy⟩ := h x List.mem_cons_self
    obtain ⟨ys, hys⟩ := ih fun x hx => h x (List.mem_cons_of_mem _ hx)
    exact ⟨y :: ys, by rw [List.mapM_cons, ok_bind hy, ok_bind hys]; rfl⟩

theorem expand_permissions_texts (roles : List String) :
    ∃ ps, expand_permissions (.list (roles.map .str)) = .ok ps := by
  have hroles : ∀ role ∈ roles.map PyVal.str, ∃ granted,
      (do return (← PyVal.lookupIn ROLE_PERMISSIONS role).getD [] : Except PyErr (List String)) =
        .ok granted := by
    intro role hrole
    obtain ⟨r, -, rfl⟩ := List.mem_map.mp hrole
    exact ⟨_, rfl⟩
  obtain ⟨granted, hgranted⟩ := mapM_ok hroles
  have hiterated : iterated (.list (roles.map .str)) = .ok (roles.map .str) := rfl
  exact ⟨_, by rw [expand_permissions, ok_bind hiterated, ok_bind hgranted]; rfl⟩

theorem strings_claim_texts (xs : List String) : strings_claim (.list (xs.map .str)) = .ok xs := by
  rw [strings_claim]
  induction xs with
  | nil => rfl
  | cons x xs ih =>
    have hx : string_claim (.str x) = .ok x := rfl
    rw [List.map_cons, List.mapM_cons, ok_bind hx, ok_bind ih]
    rfl

theorem text_or_default {v : PyVal} (h : v = .none ∨ ∃ s, v = .str s) :
    ∃ s, (if v.truthy then v else .str "") = .str s := by
  obtain rfl | ⟨s, rfl⟩ := h
  · exact ⟨"", rfl⟩
  · by_cases hs : (PyVal.str s).truthy = true
    · exact ⟨s, if_pos hs⟩
    · exact ⟨"", if_neg hs⟩

/-- The claims of a user's token are those of a user. -/
theorem user_of_claims_ok {args : TokenArgs} (hargs : TextArgs args)
    (hperm : Permissions permissions) :
    ∃ user, user_of_claims (claims_of token_type expire_seconds args now jti permissions)
      (.str args.env) = .ok user := by
  obtain ⟨hsub, hemail, hname, hroles, horg, -, -, -⟩ :=
    claims_named token_type expire_seconds args now jti permissions
  obtain ⟨hretailer, htitle, hinitials, haccounts⟩ :=
    claim_optional token_type expire_seconds args now jti hperm
  obtain ⟨sub, hsub'⟩ := hargs.sub
  obtain ⟨email, hemail'⟩ := hargs.email
  obtain ⟨name, hname'⟩ := hargs.name
  obtain ⟨org, horg'⟩ := hargs.org
  obtain ⟨roles, hroles'⟩ := hargs.roles
  obtain ⟨ps, hps⟩ := expand_permissions_texts roles
  obtain ⟨title, htitle'⟩ := text_or_default hargs.title
  obtain ⟨initials, hinitials'⟩ := text_or_default hargs.avatar_initials
  have hr : ∃ r, optional_string_claim
      (if args.retailer_id.truthy then args.retailer_id else .none) = .ok r := by
    obtain hnone | ⟨s, hs⟩ := hargs.retailer_id
    · exact ⟨none, by rw [hnone]; rfl⟩
    · rw [hs]
      split
      · exact ⟨some s, rfl⟩
      · exact ⟨none, rfl⟩
  obtain ⟨retailer, hretailer'⟩ := hr
  have ha : ∃ xs, strings_claim
      (if args.assigned_accounts.truthy then args.assigned_accounts else .list []) = .ok xs := by
    obtain hnone | ⟨xs, hxs⟩ := hargs.assigned_accounts
    · exact ⟨[], by rw [hnone]; rfl⟩
    · rw [hxs]
      split
      · exact ⟨xs, strings_claim_texts xs⟩
      · exact ⟨[], rfl⟩
  obtain ⟨accounts, haccounts'⟩ := ha
  have htext : ∀ s, string_claim (.str s) = .ok s := fun _ => rfl
  unfold user_of_claims
  simp only [hsub, hemail, hname, hroles, horg, hretailer, htitle, hinitials, haccounts, hsub',
    hemail', hname', hroles', horg', hps, htitle', hinitials', hretailer', haccounts', htext,
    strings_claim_texts]
  exact ⟨_, rfl⟩

theorem loadable_of_sublist {d e : PyDict} (h : d.Sublist e)
    (he : json.loadable (.dict e) = true) : json.loadable (.dict d) = true := by
  have hmem : ∀ d : PyDict, json.loadableDict d = true ↔ ∀ p ∈ d, json.loadable p.2 = true := by
    intro d
    induction d with
    | nil => simp [json.loadableDict]
    | cons p d ih => simp [json.loadableDict, ih]
  simp only [json.loadable, Bool.and_eq_true, decide_eq_true_eq, hmem] at he ⊢
  exact ⟨he.1.sublist (h.map _), fun p hp => he.2 p (h.subset hp)⟩

theorem optional_claim_sublist (key : String) (v : PyVal) :
    (optional_claim key v).Sublist [(key, v)] := by
  unfold optional_claim
  split
  · exact List.Sublist.refl _
  · exact List.nil_sublist _

theorem loadable_texts (xs : List String) : json.loadableList (xs.map .str) = true := by
  induction xs with
  | nil => rfl
  | cons x xs ih => simp [json.loadableList, json.loadable, ih]

theorem loadable_text {v : PyVal} (h : v = .none ∨ ∃ s, v = .str s) : json.loadable v = true := by
  obtain rfl | ⟨s, rfl⟩ := h
  · rfl
  · rfl

/-- The claims of a user's token are JSON that is read back. -/
theorem claims_loadable {args : TokenArgs} (hargs : TextArgs args)
    (hperm : Permissions permissions) :
    json.loadable (.dict (claims_of token_type expire_seconds args now jti permissions)) =
      true := by
  obtain ⟨ps, hps⟩ : ∃ ps : List String,
      permissions.Sublist [("permissions", .list (ps.map .str))] := by
    obtain rfl | ⟨ps, rfl⟩ := hperm
    · exact ⟨[], List.nil_sublist _⟩
    · exact ⟨ps, List.Sublist.refl _⟩
  have hsub := ((((((List.Sublist.refl [("sub", args.sub), ("email", args.email),
    ("name", args.name), ("roles", args.roles), ("org", args.org), ("env", .str args.env),
    ("iat", .int now.floor), ("exp", .int (now.floor + expire_seconds)),
    ("token_type", .str token_type), ("jti", .str jti)]).append hps).append
      (optional_claim_sublist "auth_method" args.auth_method)).append
      (optional_claim_sublist "retailer_id" args.retailer_id)).append
      (optional_claim_sublist "title" args.title)).append
      (optional_claim_sublist "avatar_initials" args.avatar_initials)).append
      (optional_claim_sublist "assigned_accounts" args.assigned_accounts)
  refine loadable_of_sublist hsub ?_
  obtain ⟨sub, hsub'⟩ := hargs.sub
  obtain ⟨email, hemail⟩ := hargs.email
  obtain ⟨name, hname⟩ := hargs.name
  obtain ⟨org, horg⟩ := hargs.org
  obtain ⟨roles, hroles⟩ := hargs.roles
  have haccounts : json.loadable args.assigned_accounts = true := by
    obtain hnone | ⟨xs, hxs⟩ := hargs.assigned_accounts
    · rw [hnone]
      rfl
    · rw [hxs, json.loadable]
      exact loadable_texts xs
  simp [json.loadable, json.loadableDict, hsub', hemail, hname, horg, hroles, haccounts,
    loadable_text hargs.auth_method, loadable_text hargs.retailer_id, loadable_text hargs.title,
    loadable_text hargs.avatar_initials, loadable_texts]

/-- What a refresh hands on of a user's token is a user's again. -/
theorem refreshed_texts (d : Deployment) {args : TokenArgs} (hargs : TextArgs args)
    (hperm : Permissions permissions) :
    TextArgs (refreshed_args d
      (claims_of token_type expire_seconds args now jti permissions)) := by
  obtain ⟨hsub, hemail, hname, hroles, horg, -, -, -⟩ :=
    claims_named token_type expire_seconds args now jti permissions
  obtain ⟨hretailer, htitle, hinitials, haccounts⟩ :=
    claim_optional token_type expire_seconds args now jti hperm
  constructor
  case sub => simpa only [refreshed_args, hsub] using hargs.sub
  case email => simpa only [refreshed_args, hemail] using hargs.email
  case name => simpa only [refreshed_args, hname] using hargs.name
  case org => simpa only [refreshed_args, horg] using hargs.org
  case roles => simpa only [refreshed_args, hroles] using hargs.roles
  case auth_method => exact .inl rfl
  case retailer_id =>
    simp only [refreshed_args, hretailer]
    split
    · exact hargs.retailer_id
    · exact .inl rfl
  case title =>
    exact .inr (by simpa only [refreshed_args, htitle] using text_or_default hargs.title)
  case avatar_initials =>
    exact .inr (by simpa only [refreshed_args, hinitials] using
      text_or_default hargs.avatar_initials)
  case assigned_accounts =>
    simp only [refreshed_args, haccounts]
    split
    · exact hargs.assigned_accounts
    · exact .inl rfl

end claims

end asoe
