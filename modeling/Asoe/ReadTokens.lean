-- The tokens that a read of an attachment brings (api/attachment_read_token.py):
-- a payload and its signature under the primary key, read under that key or
-- one of the secondary keys.
import Asoe.Lib.PyJsonCompact
import Asoe.Tokens

open py prog

namespace asoe

/-! ## Keys -/

/-- The environment variables that hold keys. -/
structure SigningKeys where
  attachment_signing_key : Option String
  attachment_signing_key_secondary : Option String
  jwt_secret : Option String

def SigningKeys.get_jwt_secret (env : SigningKeys) : String :=
  env.jwt_secret.getD "asoe-dev-secret-do-not-use-in-production"

/-- `_resolve_signing_keys()`: the primary key, and the keys that only verify. -/
def resolve_signing_keys (env : SigningKeys) : String × List String :=
  let primary := strip (env.attachment_signing_key.getD "")
  let primary := if primary = "" then env.get_jwt_secret else primary
  let secondaries_raw := strip (env.attachment_signing_key_secondary.getD "")
  let parts := (secondaries_raw.toList.splitOn ',').map fun s => strip (String.ofList s)
  (primary, parts.filter fun s => s ≠ "")

/-- The keys that `verify_read_token` tries. -/
def candidates (env : SigningKeys) : List String :=
  (resolve_signing_keys env).1 :: (resolve_signing_keys env).2

/-! ## Signatures -/

def read_token_error (text : String) : PyErr := ⟨"ReadTokenError", text⟩

/-- `_sign_with(payload_b64, key)`: the payload must be ASCII. -/
def sign_with (payload_b64 : List Char) (key : String) : Except PyErr (List Char) :=
  if payload_b64.all fun c => c.toNat < 128 then .ok (base64.encode (hs256 key payload_b64))
  else .error ⟨"UnicodeEncodeError", "'ascii' codec can't encode character"⟩

/-- `hmac.compare_digest(a, b)` of two strings. -/
def compare_digest (a b : List Char) : Except PyErr Bool :=
  if (a ++ b).all fun c => c.toNat < 128 then .ok (a = b)
  else .error ⟨"TypeError", "comparing strings with non-ASCII characters is not supported"⟩

/-- One of the keys signs the payload so; the keys after it are not tried. -/
def any_signs (sig payload_b64 : List Char) : List String → Except PyErr Bool
  | [] => .ok false
  | key :: keys => do
    if ← compare_digest sig (← sign_with payload_b64 key) then .ok true
    else any_signs sig payload_b64 keys

/-! ## Minting and verifying -/

def ATTACHMENT_READ_URL_TTL_SECONDS : ℤ := 300

/-- One call of `mint_read_token`: the environment, the clock and the arguments. -/
structure Minting where
  env : SigningKeys
  now : ℚ
  tenant_id : String
  case_id : String
  attachment_id : String
  ttl_seconds : Option ℤ

namespace Minting

variable (m : Minting)

def key : String := (resolve_signing_keys m.env).1

def expiry : ℤ := m.now.floor + m.ttl_seconds.getD ATTACHMENT_READ_URL_TTL_SECONDS

def claims : PyDict :=
  [("t", .str m.tenant_id), ("c", .str m.case_id), ("a", .str m.attachment_id),
    ("exp", .int m.expiry)]

def payload_b64 : List Char := base64.encode (base64.utf8 (json.dumps_compact m.claims))

end Minting

def mint_read_token (m : Minting) : Except PyErr (List Char) := do
  return m.payload_b64 ++ '.' :: (← sign_with m.payload_b64 m.key)

/-- `token.split(".", 1)`. -/
def split_once : List Char → Option (List Char × List Char)
  | [] => none
  | c :: cs => if c = '.' then some ([], cs) else (split_once cs).map fun p => (c :: p.1, p.2)

def verify_read_token (env : SigningKeys) (now : ℚ) (token : List Char) : Except PyErr PyDict := do
  match split_once token with
  | none => .error (read_token_error "malformed token")
  | some (payload_b64, sig) =>
    if !(← any_signs sig payload_b64 (candidates env)) then
      .error (read_token_error "bad signature")
    else
      match ((b64url_decode payload_b64).bind base64.utf8?).bind json.loads with
      | none => .error (read_token_error "malformed payload")
      | some (.dict claims) =>
        if (← ((dict.get claims "exp").getD (.int 0)).toInt) < now.floor then
          .error (read_token_error "expired")
        else .ok claims
      | some _ => .error (read_token_error "expired")

/-! ## A signature that nobody can forge -/

/-- Each payload of the token that one of the keys signs so has been minted
under that key. -/
def Unforged (minted : Minting → Prop) (keys : List String) (token : List Char) : Prop :=
  ∀ payload sig, split_once token = some (payload, sig) →
    ∀ key ∈ keys, sig = base64.encode (hs256 key payload) →
      ∃ m, minted m ∧ m.key = key ∧ m.payload_b64 = payload

/-! ## Texts -/

theorem split_once_eq_none {token : List Char} : split_once token = none ↔ '.' ∉ token := by
  induction token with
  | nil => simp [split_once]
  | cons c cs ih =>
    rw [split_once]
    split
    · rename_i hc
      simp [hc]
    · rename_i hc
      rw [Option.map_eq_none_iff, ih, List.mem_cons, not_or]
      exact (and_iff_right (Ne.symm hc)).symm

theorem split_once_eq_some {token payload sig : List Char}
    (h : split_once token = some (payload, sig)) : token = payload ++ '.' :: sig := by
  induction token generalizing payload with
  | nil => cases h
  | cons c cs ih =>
    rw [split_once] at h
    split at h
    · rename_i hc
      cases h
      rw [hc]
      rfl
    · obtain ⟨⟨payload', sig'⟩, hrest, hp⟩ := Option.map_eq_some_iff.mp h
      cases hp
      rw [ih hrest]
      rfl

theorem split_once_append {payload : List Char} (h : '.' ∉ payload) (sig : List Char) :
    split_once (payload ++ '.' :: sig) = some (payload, sig) := by
  induction payload with
  | nil => rfl
  | cons c cs ih =>
    rw [List.mem_cons, not_or] at h
    rw [List.cons_append, split_once, if_neg (Ne.symm h.1), ih h.2]
    rfl

theorem encode_ascii {bs : List ℕ} (h : ∀ b ∈ bs, b < 256) : json.Ascii (base64.encode bs) := by
  intro c hc
  obtain ⟨n, hn, rfl⟩ := base64.mem_encode h c hc
  exact (base64.digit_ne hn).2.2

/-! ## The keys are tried -/

theorem sign_with_ascii {payload : List Char} (h : json.Ascii payload) (key : String) :
    sign_with payload key = .ok (base64.encode (hs256 key payload)) :=
  if_pos (List.all_eq_true.mpr fun c hc => decide_eq_true (h c hc))

theorem any_signs_ascii {sig payload : List Char} (hsig : json.Ascii sig)
    (hpayload : json.Ascii payload) (keys : List String) :
    any_signs sig payload keys =
      .ok (decide (∃ key ∈ keys, sig = base64.encode (hs256 key payload))) := by
  induction keys with
  | nil => rfl
  | cons key keys ih =>
    have hcompare : compare_digest sig (base64.encode (hs256 key payload)) =
        .ok (decide (sig = base64.encode (hs256 key payload))) := by
      refine if_pos (List.all_eq_true.mpr fun c hc => decide_eq_true ?_)
      exact json.ascii_append hsig (encode_ascii (hs256_lt key payload)) c hc
    rw [any_signs, ok_bind (sign_with_ascii hpayload key), ok_bind hcompare, ih]
    by_cases h : sig = base64.encode (hs256 key payload)
    · simp [h]
    · simp [h]

/-- A part that is not ASCII makes the first key raise what is no `ReadTokenError`. -/
theorem any_signs_not_ascii {sig payload : List Char}
    (h : ¬ (json.Ascii payload ∧ json.Ascii sig)) (key : String) (keys : List String) :
    ∃ e : PyErr, any_signs sig payload (key :: keys) = .error e ∧ e.kind ≠ "ReadTokenError" := by
  by_cases hpayload : json.Ascii payload
  · have hsig : ¬ json.Ascii sig := fun hsig => h ⟨hpayload, hsig⟩
    have hcompare : compare_digest sig (base64.encode (hs256 key payload)) = .error
        ⟨"TypeError", "comparing strings with non-ASCII characters is not supported"⟩ := by
      refine if_neg fun hall => hsig fun c hc => ?_
      exact of_decide_eq_true (List.all_eq_true.mp hall c (List.mem_append_left _ hc))
    rw [any_signs, ok_bind (sign_with_ascii hpayload key), error_bind hcompare]
    exact ⟨_, rfl, by decide⟩
  · have hsign : sign_with payload key =
        .error ⟨"UnicodeEncodeError", "'ascii' codec can't encode character"⟩ := by
      refine if_neg fun hall => hpayload fun c hc => ?_
      exact of_decide_eq_true (List.all_eq_true.mp hall c hc)
    rw [any_signs, error_bind hsign]
    exact ⟨_, rfl, by decide⟩

/-! ## What was minted is read -/

theorem Minting.loadable (m : Minting) : json.loadable (.dict m.claims) = true := by
  simp [Minting.claims, json.loadable, json.loadableDict]

theorem Minting.payload_ascii (m : Minting) : json.Ascii m.payload_b64 :=
  encode_ascii (base64.utf8_lt _)

theorem Minting.claims_read (m : Minting) :
    ((b64url_decode m.payload_b64).bind base64.utf8?).bind json.loads = some (.dict m.claims) := by
  rw [b64url_decode, Minting.payload_b64, base64.decode_encode (base64.utf8_lt _),
    Option.bind_some, base64.utf8?_ascii (json.ascii_dumps_compact m.loadable), Option.bind_some,
    json.loads_dumps_compact m.loadable]

theorem Minting.expiry_read (m : Minting) :
    ((dict.get m.claims "exp").getD (.int 0)).toInt = .ok m.expiry := by
  simp [Minting.claims, dict.get_cons, PyVal.toInt]

theorem verify_signed {env : SigningKeys} {token sig : List Char} {m : Minting}
    (hsplit : split_once token = some (m.payload_b64, sig)) (hsig : json.Ascii sig)
    (hkey : ∃ key ∈ candidates env, sig = base64.encode (hs256 key m.payload_b64)) (now : ℚ) :
    verify_read_token env now token =
      if m.expiry < now.floor then .error (read_token_error "expired") else .ok m.claims := by
  have hany := any_signs_ascii hsig m.payload_ascii (candidates env)
  rw [decide_eq_true hkey] at hany
  unfold verify_read_token
  rw [hsplit]
  dsimp only
  rw [ok_bind hany, Bool.not_true, if_neg (by decide), m.claims_read]
  dsimp only
  rw [ok_bind m.expiry_read]

theorem verify_minted {env : SigningKeys} {m : Minting} {token : List Char}
    (hmint : mint_read_token m = .ok token) (hkey : m.key ∈ candidates env) {now : ℚ}
    (hnow : now.floor ≤ m.expiry) : verify_read_token env now token = .ok m.claims := by
  rw [mint_read_token, ok_bind (sign_with_ascii m.payload_ascii m.key)] at hmint
  cases hmint
  have hdot : '.' ∉ m.payload_b64 := base64.dot_not_mem_encode (base64.utf8_lt _)
  rw [verify_signed (split_once_append hdot _) (encode_ascii (hs256_lt _ _)) ⟨m.key, hkey, rfl⟩,
    if_neg (by omega)]

/-! ## Any token -/

/-- The verifier returns the claims of a minted token that has not expired,
or refuses with a `ReadTokenError`. -/
def ReadsOrRefuses (minted : Minting → Prop) (env : SigningKeys) (now : ℚ) (token : List Char) :
    Prop :=
  (∃ m, minted m ∧ m.key ∈ candidates env ∧ now.floor ≤ m.expiry ∧
    verify_read_token env now token = .ok m.claims) ∨
  ∃ text, verify_read_token env now token = .error (read_token_error text)

theorem reads_or_refuses_ascii {minted : Minting → Prop} {env : SigningKeys} {token : List Char}
    (hunforged : Unforged minted (candidates env) token) (now : ℚ) {payload sig : List Char}
    (hsplit : split_once token = some (payload, sig)) (hpayload : json.Ascii payload)
    (hsig : json.Ascii sig) : ReadsOrRefuses minted env now token := by
  have hany := any_signs_ascii hsig hpayload (candidates env)
  by_cases hkey : ∃ key ∈ candidates env, sig = base64.encode (hs256 key payload)
  · obtain ⟨key, hmem, hsigned⟩ := hkey
    obtain ⟨m, hminted, rfl, rfl⟩ := hunforged payload sig hsplit key hmem hsigned
    have hverify := verify_signed hsplit hsig ⟨m.key, hmem, hsigned⟩ now
    by_cases hexpired : m.expiry < now.floor
    · rw [if_pos hexpired] at hverify
      exact Or.inr ⟨_, hverify⟩
    · rw [if_neg hexpired] at hverify
      exact Or.inl ⟨m, hminted, hmem, by omega, hverify⟩
  · right
    rw [decide_eq_false hkey] at hany
    refine ⟨"bad signature", ?_⟩
    unfold verify_read_token
    rw [hsplit]
    dsimp only
    rw [ok_bind hany, Bool.not_false, if_pos rfl]

/-- A token is read for what was minted or is refused just when it has no
signature part or is ASCII: another one raises what no caller handles. -/
theorem verify_read_token_reads_or_refuses_iff_ascii (minted : Minting → Prop) (env : SigningKeys)
    (now : ℚ) (token : List Char) (hunforged : Unforged minted (candidates env) token) :
    ReadsOrRefuses minted env now token ↔ '.' ∉ token ∨ ∀ c ∈ token, c.toNat < 128 := by
  cases hsplit : split_once token with
  | none =>
    refine iff_of_true (Or.inr ⟨"malformed token", ?_⟩) (Or.inl (split_once_eq_none.mp hsplit))
    rw [verify_read_token, hsplit]
  | some p =>
    obtain ⟨payload, sig⟩ := p
    have htoken := split_once_eq_some hsplit
    have hdot : '.' ∈ token := by simp [htoken]
    rw [or_iff_right (not_not.mpr hdot)]
    constructor
    · intro h
      by_contra hascii
      have hparts : ¬ (json.Ascii payload ∧ json.Ascii sig) := by
        rintro ⟨hpayload, hsig⟩
        rw [htoken] at hascii
        exact hascii (json.ascii_append hpayload (json.ascii_cons (by decide) hsig))
      obtain ⟨e, hany, hkind⟩ := any_signs_not_ascii hparts (resolve_signing_keys env).1
        (resolve_signing_keys env).2
      have hverify : verify_read_token env now token = .error e := by
        unfold verify_read_token
        rw [hsplit]
        exact error_bind hany _
      rcases h with ⟨m, -, -, -, hok⟩ | ⟨text, herror⟩
      · rw [hverify] at hok
        cases hok
      · rw [hverify] at herror
        cases herror
        exact hkind rfl
    · intro h
      rw [htoken] at h
      exact reads_or_refuses_ascii hunforged now hsplit
        (fun c hc => h c (List.mem_append_left _ hc))
        fun c hc => h c (List.mem_append_right _ (List.mem_cons_of_mem _ hc))

/-! ## One deployment -/

def sampleKeys : SigningKeys :=
  { attachment_signing_key := some "attachment-key", attachment_signing_key_secondary := none,
    jwt_secret := none }

def sampleMinting : Minting :=
  { env := sampleKeys, now := 1000, tenant_id := "t1", case_id := "case-1",
    attachment_id := "att-1", ttl_seconds := none }

def sampleToken : List Char :=
  sampleMinting.payload_b64 ++
    '.' :: base64.encode (hs256 "attachment-key" sampleMinting.payload_b64)

theorem a_minted_token_is_read :
    (ReadsOrRefuses (· = sampleMinting) sampleKeys 1300 sampleToken ↔
      '.' ∉ sampleToken ∨ ∀ c ∈ sampleToken, c.toNat < 128) ∧
    verify_read_token sampleKeys 1300 sampleToken = .ok sampleMinting.claims := by
  have hcandidates : candidates sampleKeys = ["attachment-key"] := by decide
  have hkey : sampleMinting.key = "attachment-key" := by decide
  have hdot : '.' ∉ sampleMinting.payload_b64 := base64.dot_not_mem_encode (base64.utf8_lt _)
  constructor
  · refine verify_read_token_reads_or_refuses_iff_ascii _ _ _ _ ?_
    intro payload sig hsplit key hmem _
    rw [sampleToken, split_once_append hdot] at hsplit
    cases hsplit
    rw [hcandidates, List.mem_singleton] at hmem
    exact ⟨sampleMinting, rfl, hkey.trans hmem.symm, rfl⟩
  · refine verify_minted (m := sampleMinting) ?_ (by rw [hcandidates, hkey]; decide) (by decide)
    rw [mint_read_token, ok_bind (sign_with_ascii sampleMinting.payload_ascii _), hkey]
    rfl

/-- A payload and a signature with a letter that is not ASCII: neither is
read, and neither is refused with a `ReadTokenError`. -/
theorem a_token_with_an_accent_is_not_refused :
    ¬ ReadsOrRefuses (fun _ => True) sampleKeys 1000 "é.c2ln".toList ∧
    ¬ ReadsOrRefuses (fun _ => True) sampleKeys 1000 "cGF5.é".toList := by
  have hpayload : verify_read_token sampleKeys 1000 "é.c2ln".toList =
      .error ⟨"UnicodeEncodeError", "'ascii' codec can't encode character"⟩ := rfl
  have hsig : verify_read_token sampleKeys 1000 "cGF5.é".toList = .error
      ⟨"TypeError", "comparing strings with non-ASCII characters is not supported"⟩ := rfl
  unfold ReadsOrRefuses
  rw [hpayload, hsig]
  simp [read_token_error]

end asoe
