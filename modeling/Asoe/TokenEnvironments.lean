-- Deployments that share the secret and run under different environments. A
-- token is good only where its environment is asked for; a refresh is answered
-- in any environment, and then its tokens are of that environment.
import Asoe.IssuedTokens

namespace asoe

open py prog

/-! ## Accepted and exchanged -/

/-- The deployment lets in the user of the token. -/
def Accepts (d : Deployment) (now : ℚ) (token : List Char) : Prop :=
  ∃ user, get_current_user d now (bearer token) = .ok user

/-- The deployment answers a refresh with new tokens. -/
def Exchanges (d : Deployment) (draws : Draws) (token : List Char)
    (store : List RevocationEntry) : Prop :=
  ∃ pair store', refresh d draws token store = .ok pair store'

/-- Nothing of what a refresh asks for is about an environment. -/
theorem Token.exchanges_iff {d d' : Deployment} {seconds : ℤ} {written : ℚ} {jti : String}
    {token : List Char} (h : Token d "refresh" seconds written jti token)
    (hsecret : d'.secret = d.secret) (hjti : jti ≠ "") {draws : Draws}
    {store : List RevocationEntry} :
    Exchanges d' draws token store ↔
      draws.now ≤ ((written.floor + seconds : ℤ) : ℚ) ∧ ¬ Revoked store jti := by
  obtain ⟨payload, hreads⟩ := h.reads
  constructor
  · rintro ⟨pair, store', hrun⟩
    by_contra hno
    have hno : ((written.floor + seconds : ℤ) : ℚ) < draws.now ∨ Revoked store jti := by
      by_cases hrevoked : Revoked store jti
      · exact .inr hrevoked
      · exact .inl (not_le.mp fun hlive => hno ⟨hlive, hrevoked⟩)
    obtain ⟨e, herror⟩ := hreads.refused hsecret hjti hno
    rw [herror] at hrun
    cases hrun
  · rintro ⟨hlive, hfresh⟩
    obtain ⟨pair, hrun⟩ := hreads.exchanged hsecret hjti hlive hfresh
    exact ⟨pair, _, hrun⟩

/-! ## The environment of a chain -/

theorem Token.env_of_decoded {d : Deployment} {kind : String} {seconds : ℤ} {written now : ℚ}
    {jti : String} {token : List Char} {payload : PyDict}
    (h : Token d kind seconds written jti token)
    (hpayload : jwt_decode token d.secret now = .ok payload) :
    claim payload "env" (.str "sandbox") = .str (current_env d) := by
  obtain ⟨payload', hreads⟩ := h.reads
  rw [hreads.decoded] at hpayload
  split at hpayload
  · cases hpayload
  · obtain rfl := Except.ok.inj hpayload
    exact hreads.env

/-- The tokens of a chain say, and are accepted up to their time exactly in,
the environment of the last call: a chain that stays in one environment is
accepted in no other. A refresh is answered in every environment alike. -/
theorem tokens_are_accepted_in_the_environment_of_the_last_call {secret : String}
    {ds : List Deployment} {draws : Draws} {pair : TokenPair} (h : Chain secret ds draws pair) :
    (∃ last ∈ ds.head?,
      (∀ now payload, jwt_decode pair.access_token secret now = .ok payload ∨
        jwt_decode pair.refresh_token secret now = .ok payload →
          claim payload "env" (.str "sandbox") = .str (current_env last)) ∧
      ∀ d, d.secret = secret →
        (∀ now : ℚ, (Accepts d now pair.access_token ↔
          now ≤ ((draws.access_now.floor + (resolve_token_ttls last).1 : ℤ) : ℚ) ∧
            current_env last = server_env d) ∧
          (Accepts d now pair.refresh_token ↔
            now ≤ ((draws.refresh_now.floor + (resolve_token_ttls last).2 : ℤ) : ℚ) ∧
              current_env last = server_env d)) ∧
        (draws.refresh_jti ≠ "" → ∀ draws' store, Exchanges d draws' pair.refresh_token store ↔
          draws'.now ≤ ((draws.refresh_now.floor + (resolve_token_ttls last).2 : ℤ) : ℚ) ∧
            ¬ Revoked store draws.refresh_jti)) ∧
    ∀ env, (∀ d ∈ ds, current_env d = env) → ∀ d, d.secret = secret → server_env d ≠ env →
      ∀ now, ¬ Accepts d now pair.access_token ∧ ¬ Accepts d now pair.refresh_token := by
  obtain ⟨last, rest, rfl, hlast, hissued⟩ := h.issued
  obtain ⟨haccess, hrefresh⟩ := hissued.tokens
  have haccepted : ∀ d, d.secret = secret → ∀ now : ℚ, (Accepts d now pair.access_token ↔
      now ≤ ((draws.access_now.floor + (resolve_token_ttls last).1 : ℤ) : ℚ) ∧
        current_env last = server_env d) ∧
      (Accepts d now pair.refresh_token ↔
        now ≤ ((draws.refresh_now.floor + (resolve_token_ttls last).2 : ℤ) : ℚ) ∧
          current_env last = server_env d) := fun d hd now =>
    ⟨haccess.accepted_iff (hd.trans hlast.symm), hrefresh.accepted_iff (hd.trans hlast.symm)⟩
  refine ⟨⟨last, rfl, ?_, fun d hd => ⟨haccepted d hd, fun hjti draws' store => ?_⟩⟩, ?_⟩
  · rintro now payload (hpayload | hpayload)
    · exact haccess.env_of_decoded (hlast ▸ hpayload)
    · exact hrefresh.env_of_decoded (hlast ▸ hpayload)
  · exact hrefresh.exchanges_iff (hd.trans hlast.symm) hjti
  · intro env henv d hd hother now
    have hne : current_env last ≠ server_env d := by
      rw [henv last List.mem_cons_self]
      exact hother.symm
    obtain ⟨ha, hr⟩ := haccepted d hd now
    exact ⟨fun hyes => hne (ha.mp hyes).2, fun hyes => hne (hr.mp hyes).2⟩

/-! ## A refresh crosses environments -/

/-- The same service, promoted: it keeps its secret and its users. -/
def preprodDeployment : Deployment := { sandboxDeployment with asoe_env := some "preprod" }

theorem ann_is_promoted : ∃ pair pair' : TokenPair,
    login sandboxDeployment (drawsAt 100 "a1" "r1") "ann@acme.com" "pw" [] = .ok pair [] ∧
      refresh preprodDeployment (drawsAt 200 "a2" "r2") pair.refresh_token [] =
        .ok pair' [rotation "r1" 200] ∧
      Chain "secret" [sandboxDeployment] (drawsAt 100 "a1" "r1") pair ∧
      Chain "secret" [preprodDeployment, sandboxDeployment] (drawsAt 200 "a2" "r2") pair' := by
  obtain ⟨pair, hlogin, hissued⟩ := ann_logs_in sandboxDeployment (drawsAt 100 "a1" "r1") [] rfl
  obtain ⟨-, htoken⟩ := hissued.tokens
  obtain ⟨payload, hreads⟩ := htoken.reads
  have hlive : (200 : ℚ) ≤ (((drawsAt 100 "a1" "r1").refresh_now.floor +
      (resolve_token_ttls sandboxDeployment).2 : ℤ) : ℚ) := by decide +kernel
  have hsecret : preprodDeployment.secret = sandboxDeployment.secret := rfl
  have hrefreshed : ∃ pair', refresh preprodDeployment (drawsAt 200 "a2" "r2") pair.refresh_token
      [] = .ok pair' [rotation "r1" 200] :=
    hreads.exchanged hsecret (by decide) hlive (by simp [Revoked])
  obtain ⟨pair', hrefresh⟩ := hrefreshed
  have hchain : Chain "secret" [sandboxDeployment] (drawsAt 100 "a1" "r1") pair := by
    have hcall : (AuthCall.login "ann@acme.com" "pw").answer sandboxDeployment
        (drawsAt 100 "a1" "r1") [] = .ok pair [] := hlogin
    exact .login rfl (fun _ h => by cases h) hcall
  exact ⟨pair, pair', hlogin, hrefresh, hchain, .refresh hchain rfl hrefresh⟩

/-- A login under `sandbox` is accepted there and not under `preprod`. -/
theorem a_sandbox_login_stays_there : ∃ pair : TokenPair,
    login sandboxDeployment (drawsAt 100 "a1" "r1") "ann@acme.com" "pw" [] = .ok pair [] ∧
      Accepts sandboxDeployment 250 pair.access_token ∧
      ∀ now, ¬ Accepts preprodDeployment now pair.access_token := by
  obtain ⟨pair, -, hlogin, -, hchain, -⟩ := ann_is_promoted
  obtain ⟨⟨last, hlast, -, hd⟩, hone⟩ :=
    tokens_are_accepted_in_the_environment_of_the_last_call hchain
  obtain rfl := Option.some.inj hlast
  obtain ⟨hthere, -⟩ := hd sandboxDeployment rfl
  have hlive : (250 : ℚ) ≤ (((drawsAt 100 "a1" "r1").access_now.floor +
      (resolve_token_ttls sandboxDeployment).1 : ℤ) : ℚ) := by decide +kernel
  refine ⟨pair, hlogin, (hthere 250).1.mpr ⟨hlive, rfl⟩, fun now => ?_⟩
  have henv : ∀ d ∈ [sandboxDeployment], current_env d = "sandbox" := by
    intro d hd
    obtain rfl := List.mem_singleton.mp hd
    rfl
  exact (hone "sandbox" henv preprodDeployment rfl (by decide) now).1

/-- The refresh token of a login under `sandbox` is answered under `preprod`,
with an access token that is accepted there. -/
theorem a_sandbox_login_is_refreshed_into_preprod : ∃ pair pair' : TokenPair,
    login sandboxDeployment (drawsAt 100 "a1" "r1") "ann@acme.com" "pw" [] = .ok pair [] ∧
      (∃ payload, jwt_decode pair.refresh_token "secret" 200 = .ok payload ∧
        claim payload "env" (.str "sandbox") = .str "sandbox") ∧
      refresh preprodDeployment (drawsAt 200 "a2" "r2") pair.refresh_token [] =
        .ok pair' [rotation "r1" 200] ∧
      Accepts preprodDeployment 250 pair'.access_token := by
  obtain ⟨pair, pair', hlogin, hrefresh, hchain, hchain'⟩ := ann_is_promoted
  obtain ⟨d, rest, hds, -, hissued⟩ := hchain.issued
  obtain ⟨d', rest', hds', -, hissued'⟩ := hchain'.issued
  obtain ⟨rfl, -⟩ := List.cons.inj hds
  obtain ⟨rfl, -⟩ := List.cons.inj hds'
  have hlive : (250 : ℚ) ≤ (((drawsAt 200 "a2" "r2").access_now.floor +
      (resolve_token_ttls preprodDeployment).1 : ℤ) : ℚ) := by decide +kernel
  obtain ⟨payload, hread, -⟩ := refresh_ok hrefresh
  exact ⟨pair, pair', hlogin, ⟨payload, hread, hissued.tokens.2.env_of_decoded hread⟩, hrefresh,
    (hissued'.tokens.1.accepted_iff rfl).mpr ⟨hlive, rfl⟩⟩

end asoe
