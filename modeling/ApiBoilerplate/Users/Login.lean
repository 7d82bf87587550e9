import ApiBoilerplate.Users.AccountSafety
import ApiBoilerplate.Ws.Handshake

/-!
# Who can log in

A login is judged by the one statement that looks its email up. It succeeds for the
password that the account was created with, as long as the account exists and a token
can be made for it, and for no other; the token it returns makes its bearer that
account's user, over HTTP and on the WebSocket handshake.
-/

namespace ApiBoilerplate.Users

open Foundation Http

/-- What `argon2` and `jsonwebtoken` promise: a hash verifies its own password and no
other, which idealises a hash that is hard to find another password for, and a token
opens to the claims it was made of. -/
structure Libraries.Laws {κ : Type} (lib : Libraries κ) : Prop where
  verifies : ∀ salt password hash, lib.hashPassword salt password = .ok hash →
    ∀ given, lib.verifyPassword given hash = true ↔ given = password
  opens : ∀ claims secret token, lib.jwt.encode claims secret = .ok token →
    lib.jwt.openToken token secret = .ok claims

/-- Whoever bears the token is the user, until the leeway after its expiry has passed. -/
structure StandsFor (jwt : Jwt) (cfg : TokenConfig) (now : Nat) (token : String)
    (user : AuthUser) : Prop where
  http : ∀ exp, expiration now cfg.jwtExpiryHours = .ok exp → ∀ t, t / second ≤ exp + 60 →
    ∀ headers, bearerToken headers = some token →
      fromRequest (jwt.readerAt t) (some cfg.toAuthConfig) headers = .ok user
  handshake : ∀ exp, expiration now cfg.jwtExpiryHours = .ok exp → ∀ t, t / second ≤ exp + 60 →
    ∀ config, config.auth = cfg.toAuthConfig → ∀ headers query,
      Supplies config headers query token →
        resolveIdentity (jwt.readerAt t) config headers query = .ok (some user)

section Tokens
variable {jwt : Jwt} {cfg : TokenConfig} {now exp : Nat} {userId : Uuid} {email token : String}

theorem generateToken_ok (generated : generateToken jwt now userId email cfg = .ok (.ok token)) :
    ∃ exp, expiration now cfg.jwtExpiryHours = .ok exp ∧
      jwt.encode ⟨userId.hyphenated, email, exp⟩ cfg.jwtSecret = .ok token := by
  rw [generateToken] at generated
  cases expires : expiration now cfg.jwtExpiryHours with
  | error e =>
    rw [expires] at generated
    cases generated
  | ok exp =>
    refine ⟨exp, rfl, ?_⟩
    simp only [expires, Except.map] at generated
    cases made : jwt.encode ⟨userId.hyphenated, email, exp⟩ cfg.jwtSecret with
    | error e =>
      simp only [made, Except.mapError] at generated
      cases generated
    | ok token' =>
      simp only [made, Except.mapError] at generated
      cases generated
      rfl

theorem identify_opened
    (opened : jwt.openToken token cfg.jwtSecret = .ok ⟨userId.hyphenated, email, exp⟩) {t : Nat}
    (early : t / second ≤ exp + 60) :
    identify (jwt.readerAt t) cfg.toAuthConfig token = .ok ⟨userId, email⟩ := by
  have verified := verifyToken_opened cfg opened t
  rw [if_neg (Nat.not_lt.mpr early)] at verified
  exact identify_ok.mpr ⟨_, verifyToken_ok.mp verified,
    (Uuid.parseStr_reads _ _).mpr ⟨.hyphenated, userId.spells_hyphenated⟩, rfl⟩

/-- A token that was generated stands for the user it was generated for. -/
theorem generateToken_standsFor
    (opens : ∀ claims token, jwt.encode claims cfg.jwtSecret = .ok token →
      jwt.openToken token cfg.jwtSecret = .ok claims)
    (generated : generateToken jwt now userId email cfg = .ok (.ok token)) :
    StandsFor jwt cfg now token ⟨userId, email⟩ := by
  obtain ⟨exp, expires, encoded⟩ := generateToken_ok generated
  have opened := opens _ _ encoded
  constructor
  · intro exp' expires' t early headers given
    obtain rfl := Except.ok.inj (expires.symm.trans expires')
    rw [fromRequest_bearer given]
    exact identify_opened opened early
  · rintro exp' expires' t early config own headers query supplied
    obtain rfl := Except.ok.inj (expires.symm.trans expires')
    rw [resolveIdentity_eq, tokenOf_eq_some.mpr supplied, own]
    simp only [identify_opened opened early]
    rfl

end Tokens

namespace Accounts
variable {κ : Type} [DecidableEq κ]

/-- The credentials are those of an account that was created with this password and
still exists. -/
structure Owns (lib : Libraries κ) (s : Accounts) (dto : LoginDto) (a : Account) : Prop where
  created : a ∈ s.ledger
  exists_row : ∃ m ∈ s.rows, m.id = a.model.id
  email : lib.collate a.model.email = lib.collate dto.email
  password : a.password = dto.password

/-- What `login` owes its caller. -/
inductive LoginAnswer (lib : Libraries κ) (cfg : TokenConfig) (s : Accounts) (dto : LoginDto)
    (now : Nat) : Except String (Except AppError LoginResponse) → Prop where
  | accepted (a : Account) (m : Model) (token : String) (owns : Owns lib s dto a)
      (row : m ∈ s.rows) (same : a.model.SameAccount m)
      (issued : generateToken lib.jwt now m.id m.email cfg = .ok (.ok token))
      (stands : StandsFor lib.jwt cfg now token ⟨a.model.id, a.model.email⟩) :
      LoginAnswer lib cfg s dto now (.ok (.ok ⟨token, m.response⟩))
  | unissued (a : Account) (e : AppError) (owns : Owns lib s dto a)
      (failed : generateToken lib.jwt now a.model.id a.model.email cfg = .ok (.error e)) :
      LoginAnswer lib cfg s dto now (.ok (.error e))
  | panicked (a : Account) (panic : String) (owns : Owns lib s dto a)
      (failed : generateToken lib.jwt now a.model.id a.model.email cfg = .error panic) :
      LoginAnswer lib cfg s dto now (.error panic)
  | refused (nobody : ∀ a, ¬ Owns lib s dto a) :
      LoginAnswer lib cfg s dto now (.ok (.error invalidCredentials))

variable {lib : Libraries κ} {cfg : TokenConfig} {s t : Accounts} {call : Nat} {dto : LoginDto}
  {now : Nat}

/-- The row that the email finds is the owner's, if anyone's. -/
theorem Owns.found (sound : Sound lib s) {a : Account} (owns : Owns lib s dto a) :
    ∃ m, s.selectByEmail lib dto.email = some m ∧ a.model.SameAccount m := by
  obtain ⟨m, listed, own⟩ := owns.exists_row
  obtain ⟨b, created, same⟩ := sound.rooted m listed
  have one : a = b := List.inj_on_of_nodup_map sound.ledgerIds owns.created created
    (own.symm.trans same.id.symm)
  subst one
  refine ⟨m, (Table.select_eq_some sound.emails).mpr ⟨listed, ?_⟩, same⟩
  rw [← same.email]
  exact owns.email

theorem login_answered (laws : lib.Laws) (sound : Sound lib s) :
    LoginAnswer lib cfg s dto now
      (loginResult lib cfg now dto (s.selectByEmail lib dto.email)) := by
  cases found : s.selectByEmail lib dto.email with
  | none =>
    refine .refused fun a owns => ?_
    obtain ⟨m, row, _⟩ := owns.found sound
    rw [found] at row
    cases row
  | some m =>
    obtain ⟨listed, email⟩ := Table.mem_of_select found
    obtain ⟨a, created, same⟩ := sound.rooted m listed
    obtain ⟨_, _, _, salt, hashed⟩ := sound.admitted a created
    rw [same.passwordHash] at hashed
    have verifies := laws.verifies salt a.password m.passwordHash hashed dto.password
    rw [loginResult]
    by_cases right : lib.verifyPassword dto.password m.passwordHash
    · have owns : Owns lib s dto a :=
        ⟨created, ⟨m, listed, same.id.symm⟩, same.email ▸ email, (verifies.mp right).symm⟩
      rw [if_pos right]
      cases generated : generateToken lib.jwt now m.id m.email cfg with
      | error panic => exact .panicked a panic owns (same.id ▸ same.email ▸ generated)
      | ok outcome =>
        cases outcome with
        | error e => exact .unissued a e owns (same.id ▸ same.email ▸ generated)
        | ok token =>
          refine .accepted a m token owns listed same generated ?_
          rw [same.id, same.email]
          exact generateToken_standsFor (fun claims => laws.opens claims _) generated
    · rw [if_neg right]
      refine .refused fun b owns => right ?_
      obtain ⟨m', row, same'⟩ := owns.found sound
      obtain rfl := Option.some.inj (found.symm.trans row)
      have one : a = b := List.inj_on_of_nodup_map sound.ledgerIds created owns.created
        (same.id.trans same'.id.symm)
      subst one
      exact verifies.mpr owns.password.symm

/-- The credentials are those of one account at most. -/
theorem Owns.unique (sound : Sound lib s) {a b : Account} (one : Owns lib s dto a)
    (other : Owns lib s dto b) : a = b := by
  obtain ⟨m, found, same⟩ := one.found sound
  obtain ⟨m', found', same'⟩ := other.found sound
  obtain rfl := Option.some.inj (found.symm.trans found')
  exact List.inj_on_of_nodup_map sound.ledgerIds one.created other.created
    (same.id.trans same'.id.symm)

/-- Who succeeds owns an account that a token can be made for. -/
theorem LoginAnswer.succeeds_iff (sound : Sound lib s)
    {result : Except String (Except AppError LoginResponse)}
    (answer : LoginAnswer lib cfg s dto now result) :
    (∃ response, result = .ok (.ok response)) ↔ ∃ a token, Owns lib s dto a ∧
      generateToken lib.jwt now a.model.id a.model.email cfg = .ok (.ok token) := by
  cases answer with
  | accepted a m token owns row same issued stands =>
    refine iff_of_true ⟨_, rfl⟩ ⟨a, token, owns, ?_⟩
    rw [same.id, same.email]
    exact issued
  | unissued a e owns failed =>
    refine iff_of_false (by simp) ?_
    rintro ⟨b, token, owns', issued⟩
    obtain rfl := owns.unique sound owns'
    rw [failed] at issued
    simp at issued
  | panicked a panic owns failed =>
    refine iff_of_false (by simp) ?_
    rintro ⟨b, token, owns', issued⟩
    obtain rfl := owns.unique sound owns'
    rw [failed] at issued
    cases issued
  | refused nobody =>
    refine iff_of_false (by simp) ?_
    rintro ⟨a, _, owns, _⟩
    exact nobody a owns

/-- In whatever state a login finds the table, it succeeds exactly for the password of an
existing account that a token can be made for, with a token that stands for that account;
to everyone else it says the same. -/
theorem login_correct (laws : lib.Laws) (reach : (machine lib cfg).Reachable s)
    (waiting : s.calls call = .selecting dto)
    (moved : (machine lib cfg).step s (.advance call now) = some t) :
    ∃ result, t.calls call = .loggedIn result ∧ LoginAnswer lib cfg s dto now result ∧
      ((∃ response, result = .ok (.ok response)) ↔ ∃ a token, Owns lib s dto a ∧
        generateToken lib.jwt now a.model.id a.model.email cfg = .ok (.ok token)) := by
  have advanced : s.advance lib cfg call now = some t := moved
  rw [advance, waiting] at advanced
  obtain rfl := Option.some.inj advanced
  have sound := reachable_sound reach
  have answer : LoginAnswer lib cfg s dto now
      (loginResult lib cfg now dto (s.selectByEmail lib dto.email)) := login_answered laws sound
  exact ⟨_, Function.update_self .., answer, answer.succeeds_iff sound⟩

theorem sampleLibraries_laws : sampleLibraries.Laws where
  verifies := by
    rintro salt password hash ⟨⟩ given
    simp [sampleLibraries]
  opens := by
    intro claims secret token encoded
    simp only [sampleLibraries, oneToken] at encoded ⊢
    split at encoded
    · rename_i made
      obtain ⟨rfl, rfl⟩ := made
      obtain rfl := Except.ok.inj encoded
      simp
    · cases encoded

/-- Ada logs in, her email written another way. -/
def adaAsks : List AccountLabel := adaRenamed ++ [.login 3 ⟨"Ada@Example.com", "difference"⟩]

theorem adaAsks_run :
    (machine sampleLibraries oneDay).Run (fun _ _ => True) adaAsks (sample adaAsks) :=
  Machine.run_follow (fun _ _ _ => trivial) (by decide +kernel)

def adaAnswer : Except String (Except AppError LoginResponse) :=
  .ok (.ok ⟨"token", ⟨7, "ada@example.com", "Ada L.", 0, 1000000⟩⟩)

theorem login_correct_sample : LoginAnswer sampleLibraries oneDay (sample adaAsks)
    ⟨"Ada@Example.com", "difference"⟩ 0 adaAnswer := by
  have waiting : (sample adaAsks).calls 3 = .selecting ⟨"Ada@Example.com", "difference"⟩ := by
    decide +kernel
  have answers : ((machine sampleLibraries oneDay).step (sample adaAsks) (.advance 3 0)).map
      (fun t => t.calls 3) = some (.loggedIn adaAnswer) := by decide +kernel
  obtain ⟨t, moved, answer⟩ := Option.map_eq_some_iff.mp answers
  obtain ⟨result, answered, correct, _⟩ :=
    login_correct sampleLibraries_laws ⟨_, adaAsks_run⟩ waiting moved
  obtain rfl := Call.loggedIn.inj (answered.symm.trans answer)
  exact correct

end Accounts
end ApiBoilerplate.Users
