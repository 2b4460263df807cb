-- The tokens that logins and refreshes hand out, and what is made of them
-- when they come back: `get_current_user` reads the signature, the time and
-- the environment of a token, and not its kind.
import Asoe.Lib.Runs
import Asoe.Tokens

namespace asoe

open py prog runs

/-! ## Calls -/

inductive AuthCall where
  | login (email password : String)
  | sso_callback
  | mfa_verify (code : String)
  | refresh (refresh_token : List Char)

/-- A call at a deployment. -/
def AuthCall.answer (d : Deployment) (draws : Draws) : AuthCall → AuthM TokenPair
  | .login email password => asoe.login d draws email password
  | .sso_callback => asoe.sso_callback d draws
  | .mfa_verify code => asoe.mfa_verify d draws code
  | .refresh refresh_token => asoe.refresh d draws refresh_token

/-- A pair of tokens that the deployment wrote for a user, with the clock
readings and the ids that it drew. -/
structure IssuedBy (d : Deployment) (draws : Draws) (pair : TokenPair) : Prop where
  issued : ∃ args : TokenArgs, TextArgs args ∧ args.env = current_env d ∧
    create_tokens d draws args = .ok pair

/-- What a sequence of calls comes to: a login at the last of these
deployments, and one refresh after the other at those before it. -/
inductive Chain (secret : String) : List Deployment → Draws → TokenPair → Prop
  | login {d : Deployment} {draws : Draws} {call : AuthCall} {pair : TokenPair}
      {store store' : List RevocationEntry} :
      d.secret = secret → (∀ token, call ≠ .refresh token) →
        call.answer d draws store = .ok pair store' → Chain secret [d] draws pair
  | refresh {ds : List Deployment} {d : Deployment} {before draws : Draws}
      {pair pair' : TokenPair} {store store' : List RevocationEntry} :
      Chain secret ds before pair → d.secret = secret →
        (AuthCall.refresh pair.refresh_token).answer d draws store = .ok pair' store' →
          Chain secret (d :: ds) draws pair'

/-! ## What is issued -/

theorem raised_ok {α : Type} {r : Except PyErr α} {a : α} {store store' : List RevocationEntry}
    (h : raised r store = .ok a store') : r = .ok a ∧ store' = store := by
  cases r with
  | error e => cases h
  | ok b =>
    cases h
    exact ⟨rfl, rfl⟩

theorem text_args_of_user (d : Deployment) (user : UserRecord) (auth_method : String) :
    TextArgs (user_args d user auth_method) :=
  ⟨⟨_, rfl⟩, ⟨_, rfl⟩, ⟨_, rfl⟩, ⟨_, rfl⟩, ⟨_, rfl⟩, .inr ⟨_, rfl⟩, .inl rfl, .inr ⟨_, rfl⟩,
    .inr ⟨_, rfl⟩, .inr ⟨_, rfl⟩⟩

variable {d : Deployment}

theorem issued_to_user {draws : Draws} {user : UserRecord} {auth_method : String}
    {pair : TokenPair} (h : create_tokens_for_user d draws user auth_method = .ok pair) :
    IssuedBy d draws pair :=
  ⟨_, text_args_of_user d user auth_method, rfl, h⟩

/-- A login issues tokens of its deployment. -/
theorem issued_by_login {d : Deployment} {draws : Draws} {call : AuthCall} {pair : TokenPair}
    {store store' : List RevocationEntry} (hcall : ∀ token, call ≠ .refresh token)
    (h : call.answer d draws store = .ok pair store') : IssuedBy d draws pair := by
  cases call with
  | login email password =>
    have hwp : wp (asoe.login d draws email password) (fun pair _ => IssuedBy d draws pair)
        (fun _ _ => True) store := by
      unfold asoe.login
      simp only [wp_bind, wp_require]
      refine ⟨fun _ => ?_, fun _ => trivial⟩
      split
      · trivial
      · exact wp_intro (fun pair _ hrun => issued_to_user (raised_ok hrun).1) fun _ _ _ => trivial
    have hissued := wp_ok hwp h
    exact hissued
  | sso_callback =>
    have hrun : raised (create_tokens d draws (sso_args d)) store = .ok pair store' := h
    refine ⟨sso_args d, ?_, rfl, (raised_ok hrun).1⟩
    exact ⟨⟨_, rfl⟩, ⟨_, rfl⟩, ⟨_, rfl⟩, ⟨_, rfl⟩, ⟨["analyst"], rfl⟩, .inr ⟨_, rfl⟩, .inl rfl,
      .inl rfl, .inl rfl, .inl rfl⟩
  | mfa_verify code =>
    have hwp : wp (asoe.mfa_verify d draws code) (fun pair _ => IssuedBy d draws pair)
        (fun _ _ => True) store := by
      unfold asoe.mfa_verify
      simp only [wp_bind, wp_require]
      refine ⟨fun _ => ?_, fun _ => trivial⟩
      split
      · trivial
      · exact wp_intro (fun pair _ hrun => issued_to_user (raised_ok hrun).1) fun _ _ _ => trivial
    have hissued := wp_ok hwp h
    exact hissued
  | refresh token => exact absurd rfl (hcall token)

variable {token : List Char}

/-- A refresh hands on the claims of the token that it reads. -/
theorem refresh_ok {draws : Draws} {pair : TokenPair}
    {store store' : List RevocationEntry} (h : asoe.refresh d draws token store = .ok pair store') :
    ∃ payload, jwt_decode token d.secret draws.now = .ok payload ∧
      claim payload "token_type" .none = .str "refresh" ∧
      create_tokens d draws (refreshed_args d payload) = .ok pair := by
  have hwp : wp (asoe.refresh d draws token) (fun pair _ => ∃ payload,
      jwt_decode token d.secret draws.now = .ok payload ∧
        claim payload "token_type" .none = .str "refresh" ∧
        create_tokens d draws (refreshed_args d payload) = .ok pair) (fun _ _ => True) store := by
    unfold asoe.refresh
    split
    · trivial
    · rename_i payload hpayload
      simp only [wp_bind, wp_require]
      refine ⟨fun hkind => ?_, fun _ => trivial⟩
      refine wp_intro (fun _ _ _ => ?_) fun _ _ _ => trivial
      exact wp_intro (fun pair _ hrun => ⟨payload, hpayload, hkind, (raised_ok hrun).1⟩)
        fun _ _ _ => trivial
  exact wp_ok hwp h

/-! ## What an issued token says -/

/-- The token was written by `d` at `written`, for `seconds`, under the id `jti`. -/
structure Token (d : Deployment) (kind : String) (seconds : ℤ) (written : ℚ) (jti : String)
    (token : List Char) : Prop where
  claims : ∃ (args : TokenArgs) (permissions : PyDict), TextArgs args ∧
    args.env = current_env d ∧ Permissions permissions ∧
    token = jwt_encode (claims_of kind seconds args written jti permissions) d.secret

/-- Both tokens of a pair, each with its own lifetime. -/
theorem IssuedBy.tokens {d : Deployment} {draws : Draws} {pair : TokenPair}
    (h : IssuedBy d draws pair) :
    Token d "access" (resolve_token_ttls d).1 draws.access_now draws.access_jti
        pair.access_token ∧
      Token d "refresh" (resolve_token_ttls d).2 draws.refresh_now draws.refresh_jti
        pair.refresh_token := by
  obtain ⟨args, htexts, henv, hpair⟩ := h
  unfold create_tokens at hpair
  cases haccess : token_claims "access" (resolve_token_ttls d).1 args draws.access_now
      draws.access_jti with
  | error e =>
    rw [haccess] at hpair
    cases hpair
  | ok access =>
    rw [ok_bind haccess] at hpair
    cases hrefresh : token_claims "refresh" (resolve_token_ttls d).2
        { args with auth_method := .none } draws.refresh_now draws.refresh_jti with
    | error e =>
      rw [hrefresh] at hpair
      cases hpair
    | ok refresh =>
      rw [ok_bind hrefresh] at hpair
      have hpair := Except.ok.inj hpair
      have htoken : pair.access_token = jwt_encode access d.secret := by rw [← hpair]
      have htoken' : pair.refresh_token = jwt_encode refresh d.secret := by rw [← hpair]
      obtain ⟨ps, hps, rfl⟩ := token_claims_ok haccess
      obtain ⟨ps', hps', rfl⟩ := token_claims_ok hrefresh
      have htexts' : TextArgs { args with auth_method := .none } :=
        { htexts with auth_method := .inl rfl }
      exact ⟨⟨args, ps, htexts, henv, hps, htoken⟩,
        ⟨{ args with auth_method := .none }, ps', htexts', henv, hps', htoken'⟩⟩

theorem check_expiry_claims {payload : PyDict} {exp : ℤ}
    (h : dict.get payload "exp" = some (.int exp)) (now : ℚ) :
    check_expiry payload now =
      if (exp : ℚ) < now then .error (value_error "Token has expired") else .ok payload := by
  have hcompare : PyVal.compare .gt (.float (.fin now)) (.int exp) =
      .ok (decide ((exp : ℚ) < now)) := by
    simp [PyVal.compare, PyVal.number?, PyVal.CmpOp.holds, ltNumber]
  unfold check_expiry
  rw [h]
  simp only []
  rw [ok_bind hcompare]
  by_cases hlate : (exp : ℚ) < now
  · simp [hlate]
  · simp [hlate]

/-- What an issued token is read as, until it expires. -/
structure Reads (d : Deployment) (kind : String) (expiry : ℤ) (jti : String) (token : List Char)
    (payload : PyDict) : Prop where
  decoded : ∀ now : ℚ, jwt_decode token d.secret now =
    if (expiry : ℚ) < now then .error (value_error "Token has expired") else .ok payload
  expiry : dict.get payload "exp" = some (.int expiry)
  kind : claim payload "token_type" .none = .str kind
  jti : claim payload "jti" .none = .str jti
  env : claim payload "env" (.str "sandbox") = .str (current_env d)
  user : ∃ user, user_of_claims payload (.str (current_env d)) = .ok user
  refreshed : ∀ d', TextArgs (refreshed_args d' payload)

variable {jti : String}

theorem Token.reads {kind : String} {seconds : ℤ} {written : ℚ}
    (h : Token d kind seconds written jti token) :
    ∃ payload, Reads d kind (written.floor + seconds) jti token payload := by
  obtain ⟨args, permissions, htexts, henv, hperm, rfl⟩ := h
  obtain ⟨-, -, -, -, -, hclaim, hexp, hkind⟩ :=
    claims_named kind seconds args written jti permissions
  have hjti : claim (claims_of kind seconds args written jti permissions) "jti" .none =
      .str jti := by
    simp [claim, claims_of, dict.get_cons]
  refine ⟨claims_of kind seconds args written jti permissions, fun now => ?_, hexp, hkind _, hjti,
    ?_, ?_, fun d' => refreshed_texts kind seconds written jti d' htexts hperm⟩
  · rw [jwt_decode_encode (claims_loadable kind seconds written jti htexts hperm),
      check_expiry_claims hexp]
  · rw [hclaim, henv]
  · rw [← henv]
    exact user_of_claims_ok kind seconds written jti htexts hperm

/-! ## The header of a request -/

/-- A request with a token. -/
def bearer (token : List Char) : Option String := some ("Bearer " ++ String.ofList token)

theorem isSpace_digit {n : ℕ} (h : n < 64) : isSpace (base64.digit n) = false := by
  interval_cases n <;> rfl

theorem isSpace_jwt_encode (payload : PyDict) (secret : String) :
    ∀ c ∈ jwt_encode payload secret, isSpace c = false := by
  have hdot : isSpace '.' = false := rfl
  have hpart : ∀ bs : List ℕ, (∀ b ∈ bs, b < 256) → ∀ c ∈ base64.encode bs, isSpace c = false := by
    intro bs hbs c hc
    obtain ⟨n, hn, rfl⟩ := base64.mem_encode hbs c hc
    exact isSpace_digit hn
  intro c hc
  simp only [jwt_encode, signing_input, json_part, List.mem_append, List.mem_cons] at hc
  rcases hc with (hc | rfl | hc) | rfl | hc
  · exact hpart _ (base64.utf8_lt _) c hc
  · exact hdot
  · exact hpart _ (base64.utf8_lt _) c hc
  · exact hdot
  · exact hpart _ (hs256_lt _ _) c hc

theorem stripChars_of_no_space {cs : List Char} (h : ∀ c ∈ cs, isSpace c = false) :
    stripChars cs = cs := by
  have hdrop : ∀ ds : List Char, (∀ c ∈ ds, isSpace c = false) → ds.dropWhile isSpace = ds := by
    intro ds hds
    cases ds with
    | nil => rfl
    | cons c ds => rw [List.dropWhile_cons, if_neg (by simp [hds c List.mem_cons_self])]
  rw [stripChars, hdrop cs h, hdrop cs.reverse fun c hc => h c (List.mem_reverse.mp hc),
    List.reverse_reverse]

theorem bearer_token_bearer (payload : PyDict) (secret : String) :
    bearer_token (bearer (jwt_encode payload secret)) = some (jwt_encode payload secret) := by
  have htext : ("Bearer " ++ String.ofList (jwt_encode payload secret)).toList =
      "Bearer ".toList ++ jwt_encode payload secret := by
    simp only [String.toList_append, String.toList_ofList]
  have hlength : "Bearer ".toList.length = 7 := rfl
  rw [bearer, bearer_token, htext, if_pos (by simp), List.drop_left' hlength,
    stripChars_of_no_space (isSpace_jwt_encode payload secret)]

theorem Token.bearer {kind : String} {seconds : ℤ} {written : ℚ}
    (h : Token d kind seconds written jti token) :
    bearer_token (bearer token) = some token := by
  obtain ⟨args, permissions, -, -, -, rfl⟩ := h
  exact bearer_token_bearer _ _

/-! ## Who is let in -/

/-- The claims of the token that a request brings, if it verifies. -/
def verified_claims (d : Deployment) (now : ℚ) (authorization : Option String) : Option PyDict :=
  (bearer_token authorization).bind fun token => (jwt_decode token d.secret now).toOption

theorem get_current_user_ok {d : Deployment} {now : ℚ} {authorization : Option String}
    {user : TokenUser} :
    get_current_user d now authorization = .ok user ↔
      ∃ payload, verified_claims d now authorization = some payload ∧
        claim payload "env" (.str "sandbox") = .str (server_env d) ∧
        user_of_claims payload (.str (server_env d)) = .ok user := by
  unfold get_current_user verified_claims
  cases bearer_token authorization with
  | none => simp
  | some token =>
    simp only [Option.bind_some]
    cases jwt_decode token d.secret now with
    | error e =>
      simp only [Except.toOption]
      split <;> simp
    | ok payload =>
      simp only [Except.toOption, Option.some.injEq, exists_eq_left']
      by_cases henv : claim payload "env" (.str "sandbox") = .str (server_env d)
      · have hvalid : validate_environment d (claim payload "env" (.str "sandbox")) = .ok () :=
          if_pos henv
        rw [ok_bind hvalid, henv]
        cases user_of_claims payload (.str (server_env d)) <;> simp [Except.mapError]
      · have hvalid : validate_environment d (claim payload "env" (.str "sandbox")) =
            .error (.asoe_error "ENV_MISMATCH" "Access denied." 403) := if_neg henv
        rw [error_bind hvalid]
        simp [henv]

/-- An issued token lets its user in up to its time, wherever its
environment is the one that is asked for. -/
theorem Token.accepted_iff {d' : Deployment} {kind : String} {seconds : ℤ} {written now : ℚ}
    (h : Token d kind seconds written jti token)
    (hsecret : d'.secret = d.secret) :
    (∃ user, get_current_user d' now (asoe.bearer token) = .ok user) ↔
      now ≤ ((written.floor + seconds : ℤ) : ℚ) ∧ current_env d = server_env d' := by
  obtain ⟨payload, hreads⟩ := h.reads
  have hverified : verified_claims d' now (asoe.bearer token) =
      if ((written.floor + seconds : ℤ) : ℚ) < now then none else some payload := by
    rw [verified_claims, h.bearer, Option.bind_some, hsecret, hreads.decoded]
    split <;> rfl
  constructor
  · rintro ⟨user, huser⟩
    obtain ⟨payload', hpayload, henv, -⟩ := get_current_user_ok.mp huser
    rw [hverified] at hpayload
    split at hpayload
    · cases hpayload
    · rename_i hlive
      obtain rfl := Option.some.inj hpayload
      exact ⟨not_lt.mp hlive, PyVal.str.inj (hreads.env.symm.trans henv)⟩
  · rintro ⟨hlive, henv⟩
    obtain ⟨user, huser⟩ := hreads.user
    refine ⟨user, get_current_user_ok.mpr ⟨payload, ?_, ?_, ?_⟩⟩
    · rw [hverified, if_neg (not_lt.mpr hlive)]
    · rw [hreads.env, henv]
    · rw [← henv]
      exact huser

theorem Chain.issued {secret : String} {ds : List Deployment} {draws : Draws} {pair : TokenPair}
    (h : Chain secret ds draws pair) :
    ∃ d rest, ds = d :: rest ∧ d.secret = secret ∧ IssuedBy d draws pair := by
  induction h with
  | login hd hcall hrun => exact ⟨_, [], rfl, hd, issued_by_login hcall hrun⟩
  | @refresh ds d before draws pair pair' store store' _ hd hrun ih =>
    obtain ⟨d', rest, rfl, hd', hissued⟩ := ih
    obtain ⟨payload, hreads⟩ := hissued.tokens.2.reads
    obtain ⟨payload', hpayload, -, hpair⟩ := refresh_ok hrun
    rw [hd, ← hd', hreads.decoded] at hpayload
    split at hpayload
    · cases hpayload
    · obtain rfl := Except.ok.inj hpayload
      exact ⟨d, d' :: rest, rfl, hd, ⟨_, hreads.refreshed d, rfl, hpair⟩⟩

/-! ## What is exchanged -/

/-- Tokens can be written for anyone whose roles can be gone through. -/
theorem create_tokens_iff {draws : Draws} {args : TokenArgs} :
    (∃ pair, create_tokens d draws args = .ok pair) ↔
      ∃ ps, expand_permissions args.roles = .ok ps := by
  have haccess : ∀ ttl now jti, (∃ payload, token_claims "access" ttl args now jti = .ok payload) ↔
      ∃ ps, expand_permissions args.roles = .ok ps := by
    intro ttl now jti
    cases hps : expand_permissions args.roles with
    | error e =>
      have hclaims : token_claims "access" ttl args now jti = .error e := by
        simp only [token_claims, if_true, hps]
        rfl
      simp [hclaims]
    | ok ps =>
      have hclaims : ∃ payload, token_claims "access" ttl args now jti = .ok payload := by
        simp only [token_claims, if_true, hps]
        exact ⟨_, rfl⟩
      simp [hclaims]
  have hrefresh : ∀ ttl args now jti, ∃ payload,
      token_claims "refresh" ttl args now jti = .ok payload := by
    intro ttl args now jti
    simp only [token_claims]
    rw [if_neg (by decide)]
    exact ⟨_, rfl⟩
  rw [← haccess (resolve_token_ttls d).1 draws.access_now draws.access_jti]
  unfold create_tokens
  constructor
  · rintro ⟨pair, hpair⟩
    cases h : token_claims "access" (resolve_token_ttls d).1 args draws.access_now
        draws.access_jti with
    | error e =>
      rw [error_bind h] at hpair
      cases hpair
    | ok access => exact ⟨access, rfl⟩
  · rintro ⟨access, h⟩
    obtain ⟨payload, h'⟩ := hrefresh (resolve_token_ttls d).2
      { args with auth_method := .none } draws.refresh_now draws.refresh_jti
    exact ⟨_, by rw [ok_bind h, ok_bind h']; rfl⟩

theorem create_tokens_texts (d : Deployment) (draws : Draws) {args : TokenArgs}
    (hargs : TextArgs args) : ∃ pair, create_tokens d draws args = .ok pair := by
  obtain ⟨roles, hroles⟩ := hargs.roles
  rw [create_tokens_iff, hroles]
  exact expand_permissions_texts roles

/-- The entry that a rotation leaves. -/
def rotation (jti : String) (now : ℚ) : RevocationEntry := ⟨.str jti, now.floor, "rotation"⟩

def Revoked (store : List RevocationEntry) (jti : String) : Prop :=
  ∃ entry ∈ store, entry.jti = .str jti

theorem is_revoked_text (store : List RevocationEntry) (hjti : jti ≠ "") :
    ∃ revoked, is_revoked (.str jti) store = .ok revoked ∧
      (revoked = true ↔ Revoked store jti) := by
  have htruthy : (PyVal.str jti).truthy = true := by simp [PyVal.truthy, hjti]
  have hhashed : PyVal.hashed (.str jti) = .ok (.str jti) := rfl
  refine ⟨store.any fun entry => entry.jti.eq (.str jti), ?_, ?_⟩
  · rw [is_revoked, if_pos htruthy, ok_bind hhashed]
    rfl
  · simp [Revoked, PyVal.eq_str]

theorem revoke_text {store : List RevocationEntry} (hjti : jti ≠ "")
    (hfresh : ¬ Revoked store jti) (reason : String) (now : ℚ) :
    revoke (.str jti) reason now store = .ok (store ++ [⟨.str jti, now.floor, reason⟩]) := by
  have htruthy : (PyVal.str jti).truthy = true := by simp [PyVal.truthy, hjti]
  have hhashed : PyVal.hashed (.str jti) = .ok (.str jti) := rfl
  have hnone : ¬ (store.any fun entry => entry.jti.eq (.str jti)) = true := by
    simpa [Revoked, PyVal.eq_str] using hfresh
  rw [revoke, if_pos htruthy, ok_bind hhashed, if_neg hnone]
  rfl

theorem raised_of_ok {α : Type} {r : Except PyErr α} {a : α} (h : r = .ok a)
    (store : List RevocationEntry) : raised r store = .ok a store := by
  rw [h]
  rfl

section exchange

variable {d d' : Deployment} {expiry : ℤ} {jti : String} {token : List Char} {payload : PyDict}
  (h : Reads d "refresh" expiry jti token payload) (hsecret : d'.secret = d.secret)
  (hjti : jti ≠ "") {draws : Draws} {store : List RevocationEntry}
include h hsecret hjti

theorem Reads.exchanged (hlive : draws.now ≤ expiry) (hfresh : ¬ Revoked store jti) :
    ∃ pair, refresh d' draws token store = .ok pair (store ++ [rotation jti draws.now]) := by
  obtain ⟨revoked, hrevoked, hiff⟩ := is_revoked_text store hjti
  obtain ⟨pair, hpair⟩ := create_tokens_texts d' draws (h.refreshed d')
  have hfalse : ¬ revoked = true := fun hyes => hfresh (hiff.mp hyes)
  have hspent := revoke_text hjti hfresh "rotation" draws.now
  have hkind : (pure () : AuthM Unit) store = .ok () store := rfl
  refine ⟨pair, ?_⟩
  unfold refresh
  rw [hsecret, h.decoded, if_neg (not_lt.mpr hlive)]
  simp only [require, h.kind, if_true, hkind, rotate, h.jti, reduceCtorEq, if_false, run_bind,
    run_get, raised_of_ok hrevoked, hfalse, raised_of_ok hspent, run_set, raised_of_ok hpair]
  rfl

theorem Reads.refused (hno : (expiry : ℚ) < draws.now ∨ Revoked store jti) :
    ∃ e, refresh d' draws token store = .error e store := by
  obtain ⟨revoked, hrevoked, hiff⟩ := is_revoked_text store hjti
  unfold refresh
  rw [hsecret, h.decoded]
  by_cases hlate : (expiry : ℚ) < draws.now
  · rw [if_pos hlate]
    exact ⟨_, rfl⟩
  · have htrue := hiff.mpr (hno.resolve_left hlate)
    have hkind : (pure () : AuthM Unit) store = .ok () store := rfl
    rw [if_neg hlate]
    simp only [require, h.kind, if_true, hkind, rotate, h.jti, reduceCtorEq, if_false, run_bind,
      run_get, raised_of_ok hrevoked, htrue]
    exact ⟨_, rfl⟩

end exchange

/-! ## Only access tokens -/

/-- The time that a claim stands for. -/
def instant? : PyVal → Option ℚ
  | .int n => some n
  | .float (.fin q) => some q
  | _ => none

def Unexpired (payload : PyDict) (now : ℚ) : Prop :=
  ∀ exp ∈ (dict.get payload "exp").bind instant?, now ≤ exp

theorem check_expiry_ok {payload payload' : PyDict} {now : ℚ}
    (h : check_expiry payload now = .ok payload') : payload' = payload ∧ Unexpired payload now := by
  have hcompare : ∀ exp t, instant? exp = some t →
      PyVal.compare .gt (.float (.fin now)) exp = .ok (decide (t < now)) := by
    intro exp t ht
    cases exp with
    | int n =>
      obtain rfl := Option.some.inj ht
      simp [PyVal.compare, PyVal.number?, PyVal.CmpOp.holds, ltNumber]
    | float x =>
      cases x with
      | fin q =>
        obtain rfl := Option.some.inj ht
        simp [PyVal.compare, PyVal.number?, PyVal.CmpOp.holds, ltNumber, PyFloat.lt]
      | nan => cases ht
      | inf s => cases ht
    | none => cases ht
    | bool b => cases ht
    | str s => cases ht
    | list xs => cases ht
    | dict d => cases ht
  unfold check_expiry at h
  split at h
  · rename_i hexp
    exact ⟨(Except.ok.inj h).symm, fun t ht => by rw [hexp] at ht; cases ht⟩
  · rename_i hexp
    exact ⟨(Except.ok.inj h).symm, fun t ht => by rw [hexp] at ht; cases ht⟩
  · rename_i exp _ hexp
    cases hlate : PyVal.compare .gt (.float (.fin now)) exp with
    | error e =>
      rw [error_bind hlate] at h
      cases h
    | ok late =>
      rw [ok_bind hlate] at h
      cases late with
      | true => cases h
      | false =>
        refine ⟨(Except.ok.inj h).symm, fun t ht => ?_⟩
        rw [hexp, Option.bind_some] at ht
        have hnot := (hcompare exp t ht).symm.trans hlate
        simpa using hnot

theorem unexpired_of_verified {now : ℚ} {authorization : Option String}
    {payload : PyDict} (h : verified_claims d now authorization = some payload) :
    Unexpired payload now := by
  obtain ⟨token, -, htoken⟩ := Option.bind_eq_some_iff.mp h
  have hdecode : jwt_decode token d.secret now = .ok payload := by
    cases hread : jwt_decode token d.secret now with
    | error e =>
      rw [hread] at htoken
      cases htoken
    | ok p =>
      rw [hread] at htoken
      exact congrArg _ (Option.some.inj htoken)
  unfold jwt_decode at hdecode
  split at hdecode
  · split at hdecode
    · cases hdecode
    · split at hdecode
      · cases hdecode
      · split at hdecode
        · obtain ⟨rfl, hlive⟩ := check_expiry_ok hdecode
          exact hlive
        · cases hdecode
        · cases hdecode
  · cases hdecode

/-- A step of the service: a call, a revocation by an operator, or a request
that brings a header. -/
inductive AuthStep where
  | call (draws : Draws) (call : AuthCall)
  | revoke (jti : String) (reason : String) (now : ℚ)
  | request (now : ℚ) (authorization : Option String)

def auth_step (d : Deployment) : AuthStep → List RevocationEntry → List RevocationEntry
  | .call draws call, store => endState (call.answer d draws store)
  | .revoke jti reason now, store =>
    match revoke (.str jti) reason now store with
    | .ok store' => store'
    | .error _ => store
  | .request _ _, store => store

/-- Who is let in brings an access token that is not past its time. -/
def OnlyAccess (d : Deployment) : AuthStep → List RevocationEntry → Prop
  | .request now authorization, _ => ∀ user, get_current_user d now authorization = .ok user →
      ∃ payload, verified_claims d now authorization = some payload ∧
        claim payload "token_type" .none = .str "access" ∧ Unexpired payload now
  | _, _ => True

/-- Claims of a user, in the environment that is asked for. -/
def OfUser (d : Deployment) (payload : PyDict) : Prop :=
  claim payload "env" (.str "sandbox") = .str (server_env d) ∧
    ∃ user, user_of_claims payload (.str (server_env d)) = .ok user

/-- No request brings a token of another kind that verifies and is of a user. -/
def NoOtherKind (d : Deployment) : AuthStep → List RevocationEntry → Prop
  | .request now authorization, _ => ∀ payload,
      verified_claims d now authorization = some payload → OfUser d payload →
        claim payload "token_type" .none = .str "access"
  | _, _ => True

theorem onlyAccess_iff (d : Deployment) (step : AuthStep) (store : List RevocationEntry) :
    OnlyAccess d step store ↔ NoOtherKind d step store := by
  cases step with
  | call draws call => exact Iff.rfl
  | revoke jti reason now => exact Iff.rfl
  | request now authorization =>
    constructor
    · intro h payload hverified hof
      obtain ⟨henv, user, huser⟩ := hof
      obtain ⟨payload', hverified', hkind, -⟩ :=
        h user (get_current_user_ok.mpr ⟨payload, hverified, henv, huser⟩)
      obtain rfl := Option.some.inj (hverified.symm.trans hverified')
      exact hkind
    · intro h user huser
      obtain ⟨payload, hverified, henv, huser⟩ := get_current_user_ok.mp huser
      exact ⟨payload, hverified, h payload hverified ⟨henv, user, huser⟩,
        unexpired_of_verified hverified⟩

/-- In every run, only access tokens are let in exactly as long as no request
brings another token that verifies; each refresh token of a chain of logins and
refreshes is such a one until it expires, whatever was rotated or revoked. -/
theorem only_access_tokens_are_let_in_iff_no_other_token_is_brought (d : Deployment)
    (store : List RevocationEntry) (steps : List AuthStep) :
    (AllSteps (auth_step d) (OnlyAccess d) store steps ↔
      AllSteps (auth_step d) (NoOtherKind d) store steps) ∧
    ∀ ds draws pair, Chain d.secret ds draws pair → ∀ last ∈ ds.head?,
      current_env last = server_env d →
        ∀ now : ℚ, now ≤ ((draws.refresh_now.floor + (resolve_token_ttls last).2 : ℤ) : ℚ) →
          ∀ store, ¬ NoOtherKind d (.request now (bearer pair.refresh_token)) store := by
  refine ⟨⟨allSteps_mono fun step store => (onlyAccess_iff d step store).mp,
    allSteps_mono fun step store => (onlyAccess_iff d step store).mpr⟩, ?_⟩
  intro ds draws pair hchain last hlast henv now hlive store hnone
  obtain ⟨d', rest, rfl, hsecret, hissued⟩ := hchain.issued
  obtain rfl := Option.some.inj hlast
  obtain ⟨-, htoken⟩ := hissued.tokens
  obtain ⟨user, huser⟩ := (htoken.accepted_iff hsecret.symm).mpr ⟨hlive, henv⟩
  obtain ⟨payload, hverified, henv', huser'⟩ := get_current_user_ok.mp huser
  have hkind := hnone payload hverified ⟨henv', user, huser'⟩
  -- What the request brought is the refresh token that was issued.
  obtain ⟨issued, hreads⟩ := htoken.reads
  have hread : verified_claims d now (bearer pair.refresh_token) = some issued := by
    rw [verified_claims, htoken.bearer, Option.bind_some, ← hsecret, hreads.decoded,
      if_neg (not_lt.mpr hlive)]
    rfl
  obtain rfl := Option.some.inj (hverified.symm.trans hread)
  rw [hreads.kind] at hkind
  exact absurd (PyVal.str.inj hkind) (by decide)

/-! ## A refresh token lets its user in -/

def ann : UserRecord where
  sub := "ann"
  email := "ann@acme.com"
  name := "Ann"
  title := "Analyst"
  avatar_initials := "A"
  roles := ["analyst"]
  org := "T1"

def sandboxDeployment : Deployment where
  secret := "secret"
  asoe_env := some "sandbox"
  users_by_email := [("ann@acme.com", ann)]
  lower := id

def drawsAt (now : ℚ) (access_jti refresh_jti : String) : Draws :=
  ⟨now, now, now, access_jti, refresh_jti⟩

theorem ann_logs_in (d : Deployment) (draws : Draws) (store : List RevocationEntry)
    (h : get_user_by_email d "ann@acme.com" = some ann) :
    ∃ pair, login d draws "ann@acme.com" "pw" store = .ok pair store ∧ IssuedBy d draws pair := by
  obtain ⟨pair, hpair⟩ := create_tokens_texts d draws (text_args_of_user d ann "password+mfa")
  refine ⟨pair, ?_, issued_to_user hpair⟩
  have hgiven : (require ("ann@acme.com" ≠ "" ∧ "pw" ≠ "") (.asoe_error "INVALID_CREDENTIALS"
      "Email and password are required." 400) : AuthM Unit) store = .ok () store := rfl
  unfold login
  rw [run_bind, hgiven]
  simp only [h]
  exact raised_of_ok hpair store

/-- A refresh token that was rotated, and so revoked, is no longer exchanged;
it still lets its user in. -/
theorem a_revoked_refresh_token_lets_its_user_in : ∃ pair pair' : TokenPair,
    login sandboxDeployment (drawsAt 100 "a1" "r1") "ann@acme.com" "pw" [] = .ok pair [] ∧
      refresh sandboxDeployment (drawsAt 200 "a2" "r2") pair.refresh_token [] =
        .ok pair' [rotation "r1" 200] ∧
      (∃ e, refresh sandboxDeployment (drawsAt 300 "a3" "r3") pair.refresh_token
        [rotation "r1" 200] = .error e [rotation "r1" 200]) ∧
      (verified_claims sandboxDeployment 300 (bearer pair.refresh_token)).map
        (fun payload => claim payload "token_type" .none) = some (.str "refresh") ∧
      ∃ user, get_current_user sandboxDeployment 300 (bearer pair.refresh_token) = .ok user := by
  obtain ⟨pair, hlogin, hissued⟩ := ann_logs_in sandboxDeployment (drawsAt 100 "a1" "r1") [] rfl
  obtain ⟨-, htoken⟩ := hissued.tokens
  obtain ⟨payload, hreads⟩ := htoken.reads
  have hlive : ∀ now : ℚ, now ≤ 300 → now ≤ (((drawsAt 100 "a1" "r1").refresh_now.floor +
      (resolve_token_ttls sandboxDeployment).2 : ℤ) : ℚ) := by
    intro now hnow
    exact hnow.trans (by decide +kernel)
  have hrefreshed : ∃ pair', refresh sandboxDeployment (drawsAt 200 "a2" "r2") pair.refresh_token
      [] = .ok pair' [rotation "r1" 200] :=
    hreads.exchanged rfl (by decide) (hlive 200 (by norm_num)) (by simp [Revoked])
  have hrefused : ∃ e, refresh sandboxDeployment (drawsAt 300 "a3" "r3") pair.refresh_token
      [rotation "r1" 200] = .error e [rotation "r1" 200] :=
    hreads.refused rfl (by decide) (.inr ⟨_, List.mem_singleton_self _, rfl⟩)
  obtain ⟨pair', hrefresh⟩ := hrefreshed
  have hverified : verified_claims sandboxDeployment 300 (bearer pair.refresh_token) =
      some payload := by
    rw [verified_claims, htoken.bearer, Option.bind_some, hreads.decoded,
      if_neg (not_lt.mpr (hlive 300 le_rfl))]
    rfl
  refine ⟨pair, pair', hlogin, hrefresh, hrefused, ?_, ?_⟩
  · rw [hverified]
    exact congrArg some hreads.kind
  · exact (htoken.accepted_iff rfl).mpr ⟨hlive 300 le_rfl, rfl⟩

end asoe
